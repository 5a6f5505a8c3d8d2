import Mathlib.Data.List.Nodup
import ReactiveSchema.Proofs.Reactive.Rendering

/-!
# One render for each write

A write of a map queues all that it concerns before anything runs, so whatever it changes is
rendered once, from derived values that are all up to date.  A write of a cell or a list does
so too, unless several effects have read what it tells.
-/

namespace ReactiveSchema

variable {before middle after world : World} {runner : Runner} {effect : EffectId}
  {flushLimit nesting : Nat}

/-! ## One pass -/

/--
From one world to another, first nothing runs that uses values, and then nothing that derives
them: by then every effect that derives values is up to date, and each of the others runs
at most once and only reads.
-/
structure RendersOnce (before after : World) (derived rendered : List Event) : Prop where
  history : after.reactor.history = rendered ++ (derived ++ before.reactor.history)
  unrun {effect : EffectId} : before.reactor.timingOf effect = .post → .began effect ∉ derived
  upToDate {effect : EffectId} {dep : DepId} : after.reactor.timingOf effect = .pre →
    after.reactor.isActive effect = true → dep ∈ after.reactor.depsOf effect →
      UpToDate effect dep (derived ++ before.reactor.history)
  only {event : Event} : event ∈ rendered → (∃ running dep, event = .read running dep) ∨
    ∃ effect, event = .began effect ∧ before.reactor.timingOf effect = .post
  once (effect : EffectId) : rendered.count (.began effect) ≤ 1

theorem Meek.rendersOnce {derived rendered : List Event} (meek : Meek before middle)
    (renders : RendersOnce middle after derived rendered) :
    ∃ derived, RendersOnce before after derived rendered := by
  obtain ⟨earlier, same⟩ := meek.older
  have joined : derived ++ middle.reactor.history =
      (derived ++ earlier) ++ before.reactor.history := by
    rw [← same, List.append_assoc]
  refine ⟨derived ++ earlier, ?_⟩
  constructor
  case history => rw [renders.history, joined]
  case unrun =>
    intro effect late began
    rcases List.mem_append.mp began with later | early
    · exact renders.unrun ((meek.timing effect).trans late) later
    · exact meek.unrun late ⟨earlier, same.symm, early⟩
  case upToDate => exact fun early active read => joined ▸ renders.upToDate early active read
  case only =>
    refine fun happened => (renders.only happened).imp_right ?_
    rintro ⟨effect, began, late⟩
    exact ⟨effect, began, (meek.timing effect).symm.trans late⟩
  case once => exact renders.once

/-- Where everything is derived, what waits to render does so once. -/
theorem Renders.once (sorted : before.reactor.Sorted) (settled : before.reactor.preQueue = [])
    (watched : before.reactor.Watched fun _ => False)
    (renders : Renders before.reactor.postQueue before after) :
    ∃ rendered, RendersOnce before after [] rendered := by
  obtain ⟨rendered, same, happened⟩ := renders.happened
  refine ⟨rendered, ?_⟩
  constructor
  case history => exact same
  case unrun => exact fun _ => List.not_mem_nil
  case upToDate =>
    intro effect dep early active read
    have early := (renders.timing effect).symm.trans early
    have same := renders.early early
    have active : before.reactor.isActive effect = true := by
      unfold Reactor.isActive at active ⊢
      rw [← same]
      exact active
    have read : dep ∈ before.reactor.depsOf effect := by
      unfold Reactor.depsOf at read ⊢
      rw [← same]
      exact read
    rcases watched.attended active read with waits | waits | due | fresh
    · rw [settled] at waits
      cases waits
    · rw [sorted.post waits] at early
      cases early
    · cases due
    · exact fresh
  case only =>
    refine fun {event} known => (happened.only known).imp_right ?_
    rintro ⟨effect, rfl⟩
    refine ⟨effect, rfl, sorted.post (List.count_pos_iff.mp ?_)⟩
    exact Nat.lt_of_lt_of_le (List.count_pos_iff.mpr known) (happened.often effect)
  case once =>
    intro effect
    exact Nat.le_trans (happened.often effect) (List.nodup_iff_count_le_one.mp sorted.once effect)

namespace Act

/-- Working the queues off renders once. -/
theorem rendersOnce_flush (gentle : Gentle world) (sorted : world.reactor.Sorted)
    (watched : world.reactor.Watched fun _ => False)
    (ran : (flush (.bounded flushLimit nesting)).run world = (.ok (), after))
    (calm : .cutShort ∉ after.reactor.history) :
    ∃ derived rendered, RendersOnce world after derived rendered := by
  have busy : (world.withReactor (.whileFlushing true)).reactor.idle = false :=
    Bool.and_false _
  rw [run_flush, run_notingCut] at ran
  rcases drained : (drain (.bounded flushLimit nesting)
      (Runner.bounded flushLimit nesting).flushLimit).run
    (world.withReactor (.whileFlushing true)) with ⟨fault | _, last⟩ <;>
      rw [drained] at ran <;> cases ran
  have gentle : Gentle (world.withReactor (.whileFlushing true)) :=
    ⟨gentle.listeners, gentle.effects⟩
  have sorted : (world.withReactor (.whileFlushing true)).reactor.Sorted :=
    ⟨sorted.pre, sorted.post, sorted.once⟩
  obtain ⟨settled, meek, quiet, watched, renders⟩ := phases_drain _ gentle busy sorted
    ⟨watched.mirrored, watched.attended⟩ drained calm
  have sorted := meek.sorted sorted
  obtain ⟨rendered, once⟩ := renders.once sorted quiet watched
  obtain ⟨derived, once⟩ := meek.rendersOnce once
  exact ⟨derived, rendered, once.history, once.unrun, once.upToDate, once.only, once.once⟩

/-- Where at most one effect has read what is told, telling it works the queues off once. -/
theorem run_trigger_alone {dep : DepId} (calm : world.reactor.activeEffect = none)
    (idle : world.reactor.idle = true) (few : (world.reactor.subscribersOf dep).length ≤ 1) :
    (world.reactor.tell dep).preQueue = world.reactor.preQueue ∧
        (trigger runner dep).run world = (.ok (), world.withReactor (·.tell dep)) ∨
      (trigger runner dep).run world = (flush runner).run (world.withReactor (·.tell dep)) := by
  have tells (readers : List EffectId) (known : world.reactor.subscribersOf dep = readers) :
      world.reactor.tell dep =
        readers.foldl Reactor.enqueue (world.reactor.note (.told dep none)) := by
    rw [Reactor.tell_of_none calm, Reactor.telling, known]
  match known : world.reactor.subscribersOf dep with
  | [] =>
      rw [run_trigger, calm, known, World.withReactor, World.withReactor, tells [] known]
      exact .inl ⟨rfl, rfl⟩
  | [effect] =>
      have told : world.withReactor (·.tell dep) =
          (world.withReactor (·.note (.told dep none))).withReactor (·.enqueue effect) := by
        rw [World.withReactor, tells [effect] known]
        rfl
      rw [told]
      exact .inr (run_trigger_single calm idle known)
  | _ :: _ :: _ =>
      rw [known] at few
      exact absurd few (by simp)

end Act

variable {write : Write}

/--
A write at top level renders once, where nothing has failed, all effects are those of views or
only look, and the write gathers what it tells, or tells nothing that several effects have read.
-/
theorem one_render_per_write (gentle : Gentle world) (rest : Act.AtRest world.reactor)
    (watched : world.reactor.Watched fun _ => False)
    (together : write.gathers = true ∨ ∀ dep,
      Reactor.Since world.reactor.history after.reactor (.told dep none) →
        (world.reactor.subscribersOf dep).length ≤ 1)
    (ran : (write.perform (.bounded flushLimit nesting)).run world = (.ok (), after))
    (calm : .cutShort ∉ after.reactor.history) :
    ∃ derived rendered, RendersOnce world after derived rendered := by
  have performs := (respected_bounded_keepsWorld flushLimit nesting).perform
  have idle : world.reactor.idle = true := by
    unfold Reactor.idle
    rw [rest.batchDepth, rest.flushing]
    rfl
  have unread {told : World} (looked : Looked world told) : told.reactor = world.reactor := by
    obtain ⟨deps, tracked⟩ := looked.tracked
    rw [tracked, Reactor.trackAll_of_none deps rest.activeEffect]
  have sorted : world.reactor.Sorted := by
    constructor
    case pre => rw [rest.preQueue]; exact nofun
    case post => rw [rest.postQueue]; exact nofun
    case once => rw [rest.postQueue]; exact List.nodup_nil
  obtain ⟨sent, told, same, heard, delivered⟩ := Write.delivered ran
  have meek : Meek world told := meek_of_signals sent same (World.stepsOf_of_listeners heard)
  have sorted := meek.sorted sorted
  have watched : told.reactor.Watched fun _ => False :=
    same ▸ Reactor.watched_signalAll sent watched
  have still {settled : World} (meek : Meek world settled) (sorted : settled.reactor.Sorted)
      (watched : settled.reactor.Watched fun _ => False) (quiet : settled.reactor.preQueue = []) :
      ∃ derived rendered, RendersOnce world settled derived rendered := by
    obtain ⟨rendered, once⟩ := Renders.once sorted quiet watched
      (.of_eq (.refl _) (fun _ => rfl) rfl rfl)
    obtain ⟨derived, once⟩ := meek.rendersOnce once
    exact ⟨derived, rendered, once⟩
  have flushes {settled : World} (meek : Meek world settled) (sorted : settled.reactor.Sorted)
      (watched : settled.reactor.Watched fun _ => False)
      (ran : (Act.flush (.bounded flushLimit nesting)).run settled = (.ok (), after)) :
      ∃ derived rendered, RendersOnce world after derived rendered := by
    obtain ⟨derived, rendered, once⟩ :=
      Act.rendersOnce_flush (meek.gentle gentle) sorted watched ran calm
    obtain ⟨derived, once⟩ := meek.rendersOnce once
    exact ⟨derived, rendered, once⟩
  cases delivered with
  | untold looked ended =>
      subst ended
      exact still meek sorted watched (by rw [unread looked]; exact rest.preQueue)
  | waiting later ended =>
      subst ended
      refine still meek sorted watched ?_
      rcases later with busy | nothing
      · rw [meek.toKept.idle, idle] at busy
        cases busy
      · exact (Reactor.queues_of_not_pending nothing).1
  | flushed _ ended flushed good =>
      cases good rfl
      exact flushes meek sorted watched flushed
  | inTurn alone looked dep turned =>
      have same := unread looked
      have calm' : told.reactor.activeEffect = none := same ▸ rest.activeEffect
      have noted : Reactor.Since world.reactor.history after.reactor (.told dep none) := by
        have cared := Act.settles_scheduleAll performs told.reactor.activeEffect
          (told.reactor.subscribersOf dep)
          (told.withReactor (·.note (.told dep told.reactor.activeEffect)))
        rw [← Act.run_trigger, turned, calm'] at cared
        have older : (told.reactor.note (.told dep none)).history <:+ after.reactor.history :=
          cared.older
        rw [same] at older
        exact (Reactor.since_note world.reactor (.told dep none)).later older
      have few : (told.reactor.subscribersOf dep).length ≤ 1 := by
        rcases together with gathers | few
        · rw [alone] at gathers
          cases gathers
        · rw [same]
          exact few dep noted
      have idle' : told.reactor.idle = true := same ▸ idle
      have meek : Meek world (told.withReactor (·.tell dep)) :=
        meek.trans (meek_of_signals [.told dep] rfl fun _ => rfl)
      have sorted : (told.reactor.tell dep).Sorted := sorted.signal (.told dep)
      have watched : (told.reactor.tell dep).Watched fun _ => False :=
        Reactor.watched_signalAll [.told dep] watched
      rcases Act.run_trigger_alone calm' idle' few with ⟨unheard, ended⟩ | flushed
      · rw [ended] at turned
        obtain ⟨-, rfl⟩ := Prod.mk.inj turned
        refine still meek sorted watched (unheard.trans ?_)
        rw [same]
        exact rest.preQueue
      · exact flushes meek sorted watched (flushed.symm.trans turned)

/-! ## Worlds of views alone -/

/-- Does an effect belong to a view? -/
def Effect.ofView (effect : Effect Body) : Bool :=
  match effect.body with
  | .resolve .. | .compile _ => effect.timing == .pre
  | .render _ => effect.timing == .post
  | .program .. => false

/-- Are there no effects but those of views, and no listeners that run steps? -/
def World.onlyViews (world : World) : Bool :=
  world.reactor.effects.all Effect.ofView && world.listeners.all (·.steps.isEmpty)

theorem looking_nil : Looking [] :=
  fun _ world _ => .refl world

theorem gentle_of_onlyViews (only : world.onlyViews = true) : Gentle world := by
  obtain ⟨effects, listeners⟩ := (Bool.and_eq_true _ _).mp only
  constructor
  case listeners =>
    intro id steps found
    obtain ⟨listener, known, rfl⟩ := Option.map_eq_some_iff.mp found
    obtain ⟨place, rfl⟩ := Array.getElem?_eq_some_iff.mp known
    have none := Array.all_eq_true.mp listeners id place
    rw [List.isEmpty_iff.mp none]
    exact looking_nil
  case effects =>
    intro effect body timing found
    obtain ⟨cell, known, same⟩ := Option.map_eq_some_iff.mp found
    obtain ⟨place, rfl⟩ := Array.getElem?_eq_some_iff.mp known
    have own := Array.all_eq_true.mp effects effect place
    obtain ⟨rfl, rfl⟩ := Prod.mk.inj same
    generalize world.reactor.effects[effect] = cell at own
    obtain ⟨body, timing, active, runs, deps⟩ := cell
    cases body with
    | resolve | compile | render => exact eq_of_beq own
    | program => cases own

/-! ## A view of two entries -/

/-- A view shows two entries of a map, each through a cell, and one listener hears of it. -/
def viewing : Act Unit := do
  let map ← Act.observe (Observe.newMap [(.str "a", .int 1), (.str "b", .int 2)])
  let _ ← Act.observe (Observe.newMap [(.str "a", .int 3), (.str "b", .int 4)])
  let data ← Act.observe (Observe.makeLive map)
  let store ← Act.newStore
  let first ← Act.resolve (.bounded 8 3) data store [] "a"
  let second ← Act.resolve (.bounded 8 3) data store [] "b"
  let shown (name : String) (cell : RefId) : Thunk :=
    .expression ⟨⟨name, [name], .token 0⟩, [cell]⟩
  let root ← Act.newClosure (.thunk (.node none (.str "p") (.attributes [])
    (.all [shown "a" first, shown "b" second])))
  let root ← Act.observe (Observe.newRef root)
  modify fun world =>
    { world with
      listeners := world.listeners.push ⟨"listener", 0, []⟩
      views := world.views.push ⟨0, [], data, 0, root, store, none, [0], .none, 0, 0, 0, 2⟩ }
  let _ ← Act.watch (.bounded 8 3) (.render 0) .post

def viewedWorld : World :=
  (viewing.run .empty).2

/-- Both entries are written at once. -/
def Write.both : Write :=
  .merging 0 (.map 1)

def mergedWorld : World :=
  ((Write.both.perform (.bounded 8 3)).run viewedWorld).2

theorem watched_viewedWorld : viewedWorld.reactor.Watched fun _ => False := by
  have respected := respected_bounded_keepsWorld 8 3
  have programs := respected.byPrograms
  have keeps : Along KeepsWorld viewing := by
    refine respected.bind (respected.observe _) fun map => ?_
    refine respected.bind (respected.observe _) fun _ => ?_
    refine respected.bind (respected.observe _) fun data => ?_
    refine respected.bind programs.newStore fun store => ?_
    refine respected.bind (programs.resolve data store [] "a") fun first => ?_
    refine respected.bind (programs.resolve data store [] "b") fun second => ?_
    refine respected.bind (programs.newClosure _) fun root => ?_
    refine respected.bind (respected.observe _) fun root => ?_
    refine respected.bind (fun _ => respected.beside rfl) fun _ => ?_
    refine respected.bind (programs.watch ?_ .post) fun _ => respected.pure _
    trivial
  have calm : .cutShort ∉ viewedWorld.reactor.history := by decide +kernel
  have kept := keeps .empty
  unfold viewedWorld at calm ⊢
  generalize (viewing.run .empty).2 = viewed at calm kept ⊢
  exact kept.watched calm _ (Reactor.watched_empty _)

theorem run_mergedWorld :
    (Write.both.perform (.bounded 8 3)).run viewedWorld = (.ok (), mergedWorld) := by
  have good : ((Write.both.perform (.bounded 8 3)).run viewedWorld).1.isOk = true := by
    decide +kernel
  unfold mergedWorld
  obtain ⟨_, ran⟩ := exists_run_of_isOk good
  exact ran

theorem one_render_per_write_both :
    (∃ derived rendered, RendersOnce viewedWorld mergedWorld derived rendered) ∧
      mergedWorld.entries.length = 2 := by
  have rest : Act.AtRest viewedWorld.reactor := by
    constructor
    all_goals decide +kernel
  have gentle : Gentle viewedWorld := gentle_of_onlyViews (by decide +kernel)
  have calm : .cutShort ∉ mergedWorld.reactor.history := by decide +kernel
  have heard : mergedWorld.entries.length = 2 := by decide +kernel
  exact ⟨one_render_per_write gentle rest watched_viewedWorld (.inl rfl) run_mergedWorld calm,
    heard⟩

end ReactiveSchema
