import ReactiveSchema.Proofs.Act.Compiling
import ReactiveSchema.Proofs.Memory.Apart
import ReactiveSchema.Proofs.Observe.ScopeLooks
import ReactiveSchema.Proofs.Reactive.Aside
import ReactiveSchema.Proofs.Reactive.NoLostWake
import ReactiveSchema.Proofs.Reactive.Telling

/-!
# Compiling keeps to itself

While a schema is compiled, bindings and cells are written and effects run.  What is told to
have changed is tracked state that nobody had read before, so the effects that run are those
that compiling has made, and all that these write is of the same kind.
-/

namespace ReactiveSchema

/-- A compilation that is under way. -/
structure Compilation where
  /-- The effects as it found them. -/
  before : Reactor Body
  /-- Where it keeps bindings. -/
  site : Memory.Site
  /-- Live maps of bindings that it may write through. -/
  faces : LiveMapId → Prop
  /-- The cells that it leaves as they are. -/
  refs : Array RefCell
  /-- Cells that it may write. -/
  cells : RefId → Prop
  /-- The group that its effects join. -/
  group : EffectScopeId
  compiler : CompilerId
  views : Array View
  /-- The effect that it runs as part of. -/
  running : Option EffectId
  /-- The group that is active. -/
  scope : Option EffectScopeId
  /-- Nobody had read what is tracked only since. -/
  unread {dep : DepId} : site.deps ≤ dep → before.subscribersOf dep = []

namespace Compilation

variable {c : Compilation} {world after : World} {memory : Memory} {runner : Runner}
  {effect : EffectId} {dep : DepId} {α : Type}

/-- A cell that is not to be left as it is, and that nobody had read before. -/
def Owns (c : Compilation) (memory : Memory) (cell : RefId) : Prop :=
  c.refs.size ≤ cell ∧
    ∃ found, memory.refs[cell]? = some found ∧ c.before.subscribersOf found.dep = []

/-- Bringing such a cell up to date. -/
def Resolves (c : Compilation) (memory : Memory) : Body → Prop
  | .resolve cell .. => c.Owns memory cell
  | _ => False

/-- The compilation as part of a run of an effect. -/
def asEffect (c : Compilation) (running : Option EffectId) : Compilation :=
  { c with running }

/-- The compilation with one more live map of bindings to write through. -/
def facing (c : Compilation) (face : LiveMapId) : Compilation :=
  { c with faces := fun other => c.faces other ∨ other = face }

/-- The compilation with one more cell to write. -/
def writing (c : Compilation) (cell : RefId) : Compilation :=
  { c with cells := fun other => c.cells other ∨ other = cell }

/-- Nothing happens to the effects of before, and those that came later are the compilation's. -/
structure Sound (c : Compilation) (world : World) : Prop where
  aside : c.before.Aside world.reactor
  apart : world.memory.Apart c.site
  faces {id : LiveMapId} : c.faces id → world.memory.IsFace c.site id
  kept : Begins c.refs world.memory.refs
  cells {cell : RefId} : c.cells cell → c.Owns world.memory cell
  group : ∃ members, world.reactor.scopes[c.group]? = some ⟨members, true⟩ ∧
    ∀ effect ∈ members, c.before.effects.size ≤ effect
  members {effect : EffectId} {body : Body} {timing : Timing} : c.before.effects.size ≤ effect →
    world.reactor.kindOf effect = some (body, timing) →
      effect ∈ world.reactor.membersOf c.group ∧ c.Resolves world.memory body
  active {effect : EffectId} {kind : Body × Timing} : c.before.effects.size ≤ effect →
    world.reactor.kindOf effect = some kind → world.reactor.isActive effect = true
  compiler : ∃ compiler, world.compilers[c.compiler]? = some compiler ∧
    compiler.store = c.site.store
  views : world.views = c.views
  running : world.reactor.activeEffect = c.running
  scope : world.reactor.activeScope = c.scope

/-- From one world to another, the compilation keeps to itself. -/
def Stays (c : Compilation) (before after : World) : Prop :=
  c.Sound before → c.Sound after

theorem composable_stays (c : Compilation) : Composable c.Stays where
  refl _ := id
  trans first second := second ∘ first

/-! ## Memory -/

/-- From one memory to another, a compilation finds again what it relies on. -/
structure Finds (c : Compilation) (before after : Memory) : Prop where
  apart : before.Apart c.site → after.Apart c.site
  face {id : LiveMapId} : before.IsFace c.site id → after.IsFace c.site id
  kept : Begins c.refs before.refs → Begins c.refs after.refs
  owns {cell : RefId} : c.Owns before cell → c.Owns after cell

theorem Finds.trans {before middle after : Memory} (first : c.Finds before middle)
    (second : c.Finds middle after) : c.Finds before after where
  apart := second.apart ∘ first.apart
  face := second.face ∘ first.face
  kept := second.kept ∘ first.kept
  owns := second.owns ∘ first.owns

theorem Finds.resolves {before after : Memory} (finds : c.Finds before after) {body : Body}
    (resolves : c.Resolves before body) : c.Resolves after body := by
  cases body with
  | resolve => exact finds.owns resolves
  | compile | render | program => cases resolves

theorem finds_of_grows {before after : Memory} (grows : Memory.Grows before after) :
    c.Finds before after where
  apart apart := apart.grows grows
  face face := face.grows grows
  kept kept := kept.trans grows.refs
  owns owned := by
    obtain ⟨new, found, known, unread⟩ := owned
    exact ⟨new, found, grows.refs _ _ known, unread⟩

theorem finds_settled {before after : Memory} (finds : c.Finds before after) :
    c.Finds before after.settled where
  apart apart := (finds.apart apart).grows (Memory.grows_settled after)
  face face := (finds.face face).grows (Memory.grows_settled after)
  kept := finds.kept
  owns := finds.owns

theorem finds_withContent (memory : Memory) {id : RefId} (own : c.refs.size ≤ id)
    (content : Value) : c.Finds memory (memory.withContent id content) where
  apart apart := apart.of_eq rfl rfl rfl
  face face := ⟨face.new, face.found⟩
  kept kept index found known := by
    have early : index < c.refs.size := (Array.getElem?_eq_some_iff.mp known).1
    unfold Memory.withContent
    dsimp only
    rw [Array.getElem?_modify, if_neg (Nat.ne_of_gt (Nat.lt_of_lt_of_le early own))]
    exact kept index found known
  owns owned := by
    obtain ⟨new, found, known, unread⟩ := owned
    refine ⟨new, ?_⟩
    unfold Memory.withContent
    dsimp only
    rw [Array.getElem?_modify, known]
    split
    · exact ⟨_, rfl, unread⟩
    · exact ⟨_, rfl, unread⟩

/-- A live map of bindings, or the store with plain bindings to write. -/
def Writes (c : Compilation) (id : LiveMapId) (value : Value) : Prop :=
  c.faces id ∨ id = c.site.store ∧ ∃ raw, value = .map raw ∧ raw ≠ c.site.raw

theorem finds_overwritten {id : LiveMapId} (key : Value) {written : Value}
    (faces : ∀ {id}, c.faces id → memory.IsFace c.site id) (writes : c.Writes id written) :
    c.Finds memory (memory.overwritten id key written) where
  apart apart := by
    refine apart.overwritten key (writes.imp (fun own => ?_) fun store => store.2)
    obtain ⟨live, found, raw⟩ := (faces own).found
    rw [Memory.rawMap_of_found found]
    exact raw
  face face := face.overwritten id key written
  kept kept := kept
  owns owned := owned

namespace Sound

/-- A step of the effects that makes none. -/
theorem moved (sound : c.Sound world) (change : Reactor Body → Reactor Body)
    (moves : Reactor.Moves c.before world.reactor (change world.reactor)) :
    c.Sound (world.withReactor change) := by
  have members : (change world.reactor).membersOf c.group = world.reactor.membersOf c.group := by
    unfold Reactor.membersOf
    rw [moves.scopes]
  constructor
  case aside => exact moves.aside sound.aside
  case apart => exact sound.apart
  case faces => exact sound.faces
  case kept => exact sound.kept
  case cells => exact sound.cells
  case group => exact moves.scopes ▸ sound.group
  case members =>
    intro effect body timing new known
    obtain ⟨member, resolves⟩ := sound.members new ((moves.kinds effect).symm.trans known)
    exact ⟨members ▸ member, resolves⟩
  case active =>
    intro effect kind new known
    exact (moves.active effect).trans (sound.active new ((moves.kinds effect).symm.trans known))
  case compiler => exact sound.compiler
  case views => exact sound.views
  case running => exact moves.activeEffect.trans sound.running
  case scope => exact moves.activeScope.trans sound.scope

/-- A step of memory. -/
theorem remembers (sound : c.Sound world) (finds : c.Finds world.memory memory) :
    c.Sound { world with memory } :=
  { sound with
    apart := finds.apart sound.apart
    faces := fun own => finds.face (sound.faces own)
    kept := finds.kept sound.kept
    cells := fun own => finds.owns (sound.cells own)
    members := fun new known => (sound.members new known).imp_right finds.resolves }

/-- Another effect runs, or none. -/
theorem asEffect (sound : c.Sound world) (running : Option EffectId) :
    (c.asEffect running).Sound (world.withReactor (.asEffect running)) where
  aside := sound.aside.of_eq rfl rfl (fun _ => .inl) fun _ => .inl
  apart := sound.apart
  faces := sound.faces
  kept := sound.kept
  cells := sound.cells
  group := sound.group
  members := sound.members
  active := sound.active
  compiler := sound.compiler
  views := sound.views
  running := rfl
  scope := sound.scope

theorem facing (sound : c.Sound world) {face : LiveMapId} (own : world.memory.IsFace c.site face) :
    (c.facing face).Sound world :=
  { sound with faces := fun known => known.elim sound.faces fun same => same ▸ own }

theorem of_facing {face : LiveMapId} (sound : (c.facing face).Sound world) : c.Sound world :=
  { sound with faces := fun own => sound.faces (.inl own) }

theorem writing (sound : c.Sound world) {cell : RefId} (own : c.Owns world.memory cell) :
    (c.writing cell).Sound world :=
  { sound with cells := fun known => known.elim sound.cells fun same => same ▸ own }

theorem of_writing {cell : RefId} (sound : (c.writing cell).Sound world) : c.Sound world :=
  { sound with cells := fun own => sound.cells (.inl own) }

/-- What a face or the store tracks is read by nobody of before. -/
theorem unread_keysDep (sound : c.Sound world) {id : LiveMapId}
    (own : c.faces id ∨ id = c.site.store) :
    c.before.subscribersOf (world.memory.liveMapAt id).keysDep = [] := by
  refine c.unread ?_
  rcases own with own | rfl
  · obtain ⟨new, live, found, -⟩ := sound.faces own
    rw [Memory.liveMapAt_of_found found]
    exact sound.apart.keysDep new found
  · obtain ⟨live, found, -⟩ := sound.apart.store
    rw [Memory.liveMapAt_of_found found]
    exact sound.apart.keysDep sound.apart.new found

/-- So is what a face or the store tracks for a key. -/
theorem unread_keyed (sound : c.Sound world) {id : LiveMapId}
    (own : c.faces id ∨ id = c.site.store) (key : Value) :
    c.before.subscribersOf (world.memory.keyed id key).1 = [] := by
  have new : c.site.faces ≤ id := by
    rcases own with own | rfl
    · exact (sound.faces own).new
    · exact sound.apart.new
  refine c.unread ?_
  unfold Memory.keyed
  split
  case h_1 tracked => exact sound.apart.keyDeps new tracked
  case h_2 => exact sound.apart.count

end Sound

/-! ## Looking -/

/-- Looking at memory as it is, on behalf of an effect that came later. -/
theorem Sound.observe (sound : c.Sound world) (late : c.before.IsNew c.running) {look : Observe α}
    (finds : c.Finds world.memory (look.run (world.memory.seeing world.outlook)).2) :
    c.Sound ((Act.observe look).run world).2 := by
  have remembered := sound.remembers (finds_settled finds)
  refine remembered.moved (·.trackAll _) ?_
  exact .trackAll _ (sound.running ▸ late) _

theorem stays_observe (late : c.before.IsNew c.running) {look : Observe α} (looks : look.IsLook) :
    Along c.Stays (Act.observe look) := by
  intro world sound
  refine sound.observe late (finds_of_grows ?_)
  exact (Memory.grows_seeing _ _).trans (looks _ looks_grows _)

/-! ## New effects -/

/-- A new effect that joins the compilation's group. -/
theorem Sound.addEffect (sound : c.Sound world) (joins : c.scope = some c.group) {body : Body}
    (resolves : c.Resolves world.memory body) (timing : Timing) :
    c.Sound (world.withReactor fun reactor => (reactor.addEffect body timing true).2) := by
  obtain ⟨members, found, late⟩ := sound.group
  have active := sound.scope.trans joins
  have same : (world.reactor.addEffect body timing true).2 = { world.reactor with
      effects := world.reactor.effects.push ⟨body, timing, true, 0, []⟩
      scopes := world.reactor.scopes.modify c.group fun group => if group.active then
        { group with effects := group.effects ++ [world.reactor.effects.size] } else group } := by
    unfold Reactor.addEffect
    dsimp only
    rw [active]
  have group : (world.reactor.addEffect body timing true).2.scopes[c.group]? =
      some ⟨members ++ [world.reactor.effects.size], true⟩ := by
    rw [same]
    dsimp only
    rw [Array.getElem?_modify, if_pos rfl, found]
    rfl
  have before : world.reactor.membersOf c.group = members := by
    unfold Reactor.membersOf
    rw [found]
    rfl
  have after : (world.reactor.addEffect body timing true).2.membersOf c.group =
      members ++ [world.reactor.effects.size] := by
    unfold Reactor.membersOf
    rw [group]
    rfl
  constructor
  case aside => exact sound.aside.addEffect body timing true
  case apart => exact sound.apart
  case faces => exact sound.faces
  case kept => exact sound.kept
  case cells => exact sound.cells
  case group =>
    refine ⟨_, group, fun effect member => ?_⟩
    rcases List.mem_append.mp member with early | last
    · exact late effect early
    · rw [List.mem_singleton.mp last]
      exact sound.aside.grown
  case members =>
    intro effect other time new known
    rw [World.withReactor_reactor, Reactor.kindOf_addEffect] at known
    rw [World.withReactor_reactor, after, List.mem_append]
    split at known
    case isTrue own =>
      cases known
      exact ⟨.inr (List.mem_singleton.mpr own), resolves⟩
    case isFalse =>
      obtain ⟨member, resolves⟩ := sound.members new known
      exact ⟨.inl (before ▸ member), resolves⟩
  case active =>
    intro effect kind new known
    rw [World.withReactor_reactor] at known ⊢
    rw [Reactor.isActive_addEffect]
    rw [Reactor.kindOf_addEffect] at known
    split at known
    case isTrue own => rw [if_pos own]
    case isFalse apart =>
      rw [if_neg apart]
      exact sound.active new known
  case compiler => exact sound.compiler
  case views => exact sound.views
  case running =>
    rw [World.withReactor_reactor, same]
    exact sound.running
  case scope =>
    rw [World.withReactor_reactor, same]
    exact sound.scope

/-! ## Running effects -/

/-- Effects that bring the compilation's cells up to date keep to themselves. -/
def Performs (runner : Runner) : Prop :=
  ∀ {c : Compilation} {body : Body} {world : World}, c.before.IsNew c.running → c.Sound world →
    c.Resolves world.memory body → c.Sound ((runner.perform body).run world).2

section Working

variable (performs : Performs runner)
include performs

theorem Sound.runEffect (sound : c.Sound world) (new : c.before.effects.size ≤ effect)
    (active : world.reactor.isActive effect = true) :
    c.Sound ((Act.runEffect runner effect).run world).2 := by
  obtain ⟨cell, found, alive⟩ := Reactor.found_of_isActive active
  obtain ⟨-, resolves⟩ := sound.members new (Reactor.kindOf_of_found found)
  have begun := (sound.moved (·.beginRun effect) (.beginRun world.reactor new)).asEffect
    (some effect)
  have late : (c.asEffect (some effect)).before.IsNew (c.asEffect (some effect)).running := by
    intro other same
    cases same
    exact new
  rw [Act.run_runEffect runner found, if_pos alive, Act.run_withActiveEffect]
  have ran := (performs late begun resolves).asEffect c.running
  rw [show (world.withReactor (·.beginRun effect)).reactor.activeEffect = c.running from
    (Reactor.settles_beginRun world.reactor effect).activeEffect.trans sound.running]
  exact ran

theorem Sound.drain (limit : Nat) (sound : c.Sound world) :
    c.Sound ((Act.drain runner limit).run world).2 := by
  induction limit generalizing world with
  | zero => exact sound
  | succ limit ih =>
      cases found : world.reactor.next? with
      | none =>
          rw [Act.run_drain_none runner limit found]
          exact sound
      | some entry =>
          obtain ⟨effect, rest⟩ := entry
          have new := sound.aside.next? found
          have taken : c.Sound (world.withReactor fun _ => rest) :=
            sound.moved (fun _ => rest) (.next? found)
          rw [Act.run_drain_next runner limit found]
          split
          case isTrue active =>
            exact run_bind_after (taken.runEffect performs new active) fun _ _ _ => ih
          case isFalse => exact ih taken

theorem stays_flush : Along c.Stays (Act.flush runner) := by
  intro world sound
  have flushing := sound.moved (.whileFlushing true) (.whileFlushing world.reactor true)
  have drained := flushing.drain performs runner.flushLimit
  rw [Act.run_flush, Act.run_notingCut]
  rcases ran : (Act.drain runner runner.flushLimit).run
    (world.withReactor (.whileFlushing true)) with ⟨fault | value, late⟩ <;> rw [ran] at drained
  · have noted := drained.moved (·.note .cutShort) (.note _ _)
    exact noted.moved (.whileFlushing false) (.whileFlushing _ _)
  · exact drained.moved (.whileFlushing false) (.whileFlushing _ _)

theorem Sound.schedule (sound : c.Sound world) (new : c.before.effects.size ≤ effect) :
    c.Sound ((Act.schedule runner effect).run world).2 := by
  have queued := sound.moved (·.enqueue effect) (.enqueue world.reactor new)
  rw [Act.run_schedule]
  split
  · exact stays_flush performs _ queued
  · exact queued

theorem Sound.scheduleAll (current : Option EffectId) {effects : List EffectId}
    (new : ∀ effect ∈ effects, c.before.effects.size ≤ effect) (sound : c.Sound world) :
    c.Sound ((Act.scheduleAll runner current effects).run world).2 := by
  induction effects generalizing world with
  | nil => exact sound
  | cons effect rest ih =>
      have later (other : EffectId) (known : other ∈ rest) :=
        new other (List.mem_cons_of_mem _ known)
      unfold Act.scheduleAll
      split
      · exact run_bind_after (sound.schedule performs (new effect List.mem_cons_self))
          fun _ _ _ => ih later
      · exact ih later sound

/-- Telling of what nobody of before has read. -/
theorem stays_trigger (unread : c.before.subscribersOf dep = []) :
    Along c.Stays (Act.trigger runner dep) := by
  intro world sound
  rw [Act.run_trigger]
  refine (sound.moved (·.note _) (.note _ _)).scheduleAll performs _ fun effect reads => ?_
  exact sound.aside.new_of_unread unread reads

theorem stays_batch {body : Act α} (each : Along c.Stays body) :
    Along c.Stays (Act.batch runner body) := by
  intro world sound
  have inside := each _ (sound.moved .deeper (.deeper world.reactor))
  have left : c.Sound ((Act.leaveBatch runner).run (body.run (world.withReactor .deeper)).2).2 := by
    rw [Act.run_leaveBatch]
    split
    · exact stays_flush performs _ (inside.moved .shallower (.shallower _))
    · exact inside.moved .shallower (.shallower _)
  rw [Act.run_batch, Act.run_ensuring]
  rcases ran : (Act.leaveBatch runner).run (body.run (world.withReactor .deeper)).2 with
    ⟨fault | value, last⟩ <;> rw [ran] at left <;> exact left

/-! ## Writing -/

theorem stays_triggerKeys {id : LiveMapId} (own : c.faces id ∨ id = c.site.store) :
    Along c.Stays (Act.triggerKeys runner id) :=
  fun world sound => stays_trigger performs (sound.unread_keysDep own) world sound

section Writing

variable (late : c.before.IsNew c.running)
include late

/-- Writing one of the compilation's cells. -/
theorem stays_refSet {cell : RefId} (own : c.cells cell) (content : Value) :
    Along c.Stays (Act.refSet runner cell content) := by
  intro world sound
  obtain ⟨new, found, known, unread⟩ := sound.cells own
  have path := composable_stays c
  have written : Along c.Stays (Act.observe (Observe.setRef cell content)) := fun world sound =>
    sound.observe late <| by
      have grown := Memory.grows_seeing world.memory world.outlook
      exact (finds_of_grows grown).trans (finds_withContent _ new content)
  unfold Act.refSet
  rw [run_bind, run_get]
  dsimp only
  rw [known]
  refine path.bind (stays_observe late fun _ looks => looks.hasChanged _ _) (fun changed => ?_)
    world sound
  split
  · exact path.bind written fun _ => stays_trigger performs unread
  · exact path.pure _

theorem stays_triggerKey {id : LiveMapId} (own : c.faces id ∨ id = c.site.store) (key : Value) :
    Along c.Stays (Act.triggerKey runner id key) := by
  intro world sound
  have grown := Memory.grows_seeing world.memory world.outlook
  have seeing := sound.remembers (finds_of_grows grown)
  have noted := stays_observe late (fun _ looks => looks.keyDep id key) world sound
  unfold Act.triggerKey
  refine run_bind_after noted fun dep after ran sound => ?_
  by_cases hashable : key.isHashable = true
  · rw [Act.run_observe, Observe.run_keyDep hashable] at ran
    obtain ⟨same, -⟩ := Prod.mk.inj ran
    cases same
    exact stays_trigger performs (seeing.unread_keyed own key) after sound
  · rw [Act.run_observe] at ran
    unfold Observe.keyDep at ran
    rw [run_bind, Observe.run_checkKey_unhashable hashable] at ran
    cases ran

theorem stays_tellWritten {id : LiveMapId} (own : c.faces id ∨ id = c.site.store)
    (key value : Value) (old : Option Value) :
    Along c.Stays (Act.tellWritten runner id key value old) := by
  have path := composable_stays c
  cases old with
  | none =>
      exact path.bind (stays_triggerKeys performs own) fun _ =>
        stays_triggerKey performs late own key
  | some old =>
      refine path.bind (stays_observe late fun _ looks => looks.hasChanged old value)
        fun changed => ?_
      split
      · exact stays_triggerKey performs late own key
      · exact path.pure _

/-- Writing an entry through a live map of bindings, or plain bindings into the store. -/
theorem stays_liveMapSet {id : LiveMapId} (key : Value) {value : Value}
    (writes : c.Writes id value) : Along c.Stays (Act.liveMapSet runner id key value) := by
  have path := composable_stays c
  have own : c.faces id ∨ id = c.site.store := writes.imp_right And.left
  have entered (value : Value) (writes : c.Writes id value) : Along c.Stays (Act.observe do
      Observe.mapSet ((← get).rawMap id) key value
      Act.dropFace id key) := by
    intro world sound
    have grown := Memory.grows_seeing world.memory world.outlook
    refine sound.observe late ((finds_of_grows grown).trans ?_)
    by_cases hashable : key.isHashable = true
    · rw [Act.run_write id hashable]
      exact finds_overwritten key (fun own => (sound.faces own).grows grown) writes
    · rw [run_bind, run_get]
      dsimp only
      unfold Observe.mapSet
      rw [run_bind, run_bind, Observe.run_checkKey_unhashable hashable]
      exact finds_of_grows (.refl _)
  rw [Act.liveMapSet_eq]
  refine path.bind path.get fun world => ?_
  have writes : c.Writes id (world.memory.toRaw value) := by
    refine writes.imp_right (And.imp_right ?_)
    rintro ⟨raw, rfl, apart⟩
    exact ⟨raw, rfl, apart⟩
  refine path.bind (stays_observe late ?_) fun old => ?_
  · exact fun _ looks => looks.bind (looks.checkKey key) fun _ => looks.getting _
  · refine path.bind (entered _ writes) fun _ => stays_batch performs ?_
    exact stays_tellWritten performs late own key _ old

theorem stays_liveMapUpdate {id : LiveMapId} (own : c.faces id) (source : Value) :
    Along c.Stays (Act.liveMapUpdate runner id source) := by
  have path := composable_stays c
  have writes (key value : Value) : Along c.Stays (Act.liveMapSet runner id key value) :=
    stays_liveMapSet performs late key (.inl own)
  have copies (keys : List Value) :
      Along c.Stays (Act.liveMapCopyKeys runner id source keys) := by
    induction keys with
    | nil => exact path.pure _
    | cons key rest ih =>
        refine path.bind (stays_observe late fun _ looks => looks.getItem source key)
          fun value => ?_
        exact path.bind (writes key value) fun _ => ih
  have pairs (items : List Value) : Along c.Stays (Act.liveMapWritePairs runner id items) := by
    induction items with
    | nil => exact path.pure _
    | cons item rest ih =>
        refine path.bind (stays_observe late fun _ looks => looks.pairOf item) fun pair => ?_
        exact path.bind (writes pair.1 pair.2) fun _ => ih
  unfold Act.liveMapUpdate
  refine stays_batch performs ?_
  refine path.bind (stays_observe late fun _ looks => looks.iterate source) fun items => ?_
  split
  · exact copies items
  · exact pairs items

theorem stays_updateCell {cell : RefId} (own : c.cells cell) (data : Value) (store : LiveMapId)
    (scopes : ScopePath) (path : List String) :
    Along c.Stays (Act.updateCell runner cell data store scopes path) := by
  refine (composable_stays c).bind
    (stays_observe late fun _ looks => looks.findInScopes store scopes data path) fun found => ?_
  split
  · exact (composable_stays c).pure _
  · exact stays_refSet performs late own _

/-! ## Binding -/

/-- Writing the bindings of a node into the store. -/
theorem stays_bind (scopes : ScopePath) {added : Observe (Entries Value)} (looks : added.IsLook) :
    Along c.Stays (Act.bind runner c.site.store scopes added) := by
  intro world sound
  unfold Act.bind
  cases scopes.getLast? with
  | none => exact sound
  | some scope =>
      have newMap : Observe.IsLook (do Observe.newMap (← added)) :=
        fun P each => each.bind (looks P each) fun entries => each.newMap entries
      have seeing := sound.apart.grows (Memory.grows_seeing _ world.outlook)
      refine run_bind_after (stays_observe late newMap world sound)
        fun bindings after ran sound => ?_
      have plain : ∃ raw, bindings = .map raw ∧ raw ≠ c.site.raw := by
        obtain ⟨memory, ran, -⟩ := Act.run_of_observe ran
        obtain ⟨entries, copied, begun, made⟩ := run_bind_ok ran
        have grown := looks _ looks_grows (world.memory.seeing world.outlook)
        rw [begun] at grown
        cases made
        exact ⟨_, rfl, Nat.ne_of_gt (seeing.grows grown).inside⟩
      dsimp only
      refine run_bind_after (stays_observe late (fun _ looks => looks.liveMapHas _ _) after sound)
        fun known after' _ sound => ?_
      have seeing' := sound.apart.grows (Memory.grows_seeing _ after'.outlook)
      split
      · refine run_bind_after
          (stays_observe late (fun _ looks => looks.liveMapGet _ _) after' sound)
          fun value last ran sound => ?_
        cases value with
        | liveMap id =>
            have face : last.memory.IsFace c.site id := by
              obtain ⟨memory, ran, same⟩ := Act.run_of_observe ran
              rw [same]
              exact (seeing'.isFace_liveMapGet (Value.isOwnKey_scope scope) rfl ran).grows
                (Memory.grows_settled memory)
            have writes := stays_liveMapUpdate performs late (c := c.facing id) (.inr rfl) bindings
            exact (writes last (sound.facing face)).of_facing
        | _ => exact sound
      · exact stays_liveMapSet performs late _ (.inr ⟨rfl, plain⟩) after' sound

end Writing

/-! ## Following tokens -/

/-- A new cell that follows the value of a token. -/
theorem stays_resolve (late : c.before.IsNew c.running) (joins : c.scope = some c.group)
    (data : Value) (store : LiveMapId) (scopes : ScopePath) (token : String) :
    Along c.Stays (Act.resolve runner data store scopes token) := by
  intro world sound
  have seeing := sound.apart.grows (Memory.grows_seeing _ world.outlook)
  have new : c.refs.size ≤ world.memory.refs.size := sound.kept.size_le
  have newRef : Observe.IsLook (Observe.newRef .none) := fun _ looks => looks.newRef .none
  unfold Act.resolve
  refine run_bind_after (stays_observe late newRef world sound) fun cell after ran sound => ?_
  have own : c.Owns after.memory cell := by
    obtain ⟨memory, made, same⟩ := Act.run_of_observe ran
    cases made
    rw [same]
    exact ⟨new, _, Array.getElem?_push_size, c.unread seeing.count⟩
  refine run_bind_after ?_ fun _ _ _ sound => sound
  rw [Act.run_watch]
  have resolves : c.Resolves after.memory (.resolve cell data store scopes (splitToken token)) :=
    own
  have found := Reactor.found_addEffect after.reactor
    (.resolve cell data store scopes (splitToken token)) .pre true
  refine (sound.addEffect joins resolves .pre).runEffect performs ?_ ?_
  · rw [Reactor.fst_addEffect]
    exact sound.aside.grown
  unfold Reactor.isActive
  rw [World.withReactor_reactor, found]
  rfl

/-- All compiling in the compilation's store keeps to itself. -/
theorem compiles_stays (late : c.before.IsNew c.running) (joins : c.scope = some c.group) :
    Compiles runner c.compiler (fun compiler => compiler.store = c.site.store)
      fun _ body => Along c.Stays body where
  pure := (composable_stays c).pure
  throw _ := (composable_stays c).throw _
  bind := (composable_stays c).bind
  look := stays_observe late
  reads _ each world := each world world
  compiler {_ next} each := by
    intro world sound
    obtain ⟨compiler, found, fit⟩ := sound.compiler
    have same : (Act.compilerAt c.compiler).run world = (.ok compiler, world) := by
      unfold Act.compilerAt
      rw [run_bind, run_get]
      dsimp only
      rw [found]
      rfl
    rw [run_bind, same]
    exact each compiler fit world sound
  count := by
    intro world sound
    obtain ⟨compiler, found, fit⟩ := sound.compiler
    refine { sound with
      compiler := ⟨{ compiler with nodeCount := compiler.nodeCount + 1 }, ?_, fit⟩ }
    refine Eq.trans Array.getElem?_modify ?_
    rw [if_pos rfl, found]
    rfl
  resolve {compiler} fit scopes token :=
    stays_resolve performs late joins compiler.data compiler.store scopes token
  binding fit scopes bindings := by
    rw [fit]
    exact stays_bind performs late scopes fun _ looks => looks.copyMap bindings

end Working

/-- However deep effects may run inside effects. -/
theorem performs_bounded (flushLimit nesting : Nat) : Performs (.bounded flushLimit nesting) := by
  induction nesting with
  | zero => exact fun _ sound _ => sound
  | succ nesting ih =>
      intro c body world late sound resolves
      cases body with
      | resolve cell data store scopes path =>
          have updated := stays_updateCell ih late (c := c.writing cell) (.inr rfl) data store
            scopes path world (sound.writing resolves)
          exact run_bind_after updated.of_writing fun _ _ _ sound => sound
      | compile | render | program => cases resolves

end Compilation

end ReactiveSchema
