import Mathlib
import ReactiveSchema.Proofs.Memory.Severed
import ReactiveSchema.Proofs.Observe.Alike
import ReactiveSchema.Proofs.Reactive.PathWrite

/-!
# Nested updates

An effect that has read a scalar by path is linked to it by the tracked state of
the keys on the way.  Writes by path keep these links, and tell the effect of
each change of the scalar, as long as each write of an entry on the way there
tells somebody.  A write on the way that tells nobody severs the links without
running the effect again: from then on the effect is not told of any change.
-/

namespace ReactiveSchema

/-- A write of an entry on the way along a path. -/
def PathWrite.OnWay (write : PathWrite) (path : List String) : Prop :=
  ∃ next rest, path = write.place ++ next :: rest

/-- Nobody was told of anything. -/
def World.Silent (before after : World) : Prop :=
  after.reactor.history = before.reactor.history

namespace Act

variable {runner : Runner} {root : LiveMapId} {raw : MapId} {effect : EffectId}
  {path : List String} {value : Value} {world start now after : World} {write : PathWrite}
  {allowed : PathWrite → World → World → Prop}

/-- Writes by path, one after another, each of which returns and is allowed. -/
inductive Writes (runner : Runner) (root : LiveMapId)
    (allowed : PathWrite → World → World → Prop) (start : World) : World → Prop where
  | none : Writes runner root allowed start start
  | more {before after : World} (write : PathWrite)
      (writes : Writes runner root allowed start before) (json : write.IsJson)
      (ran : (write.perform runner root).run before = (.ok (), after))
      (fine : allowed write before after) : Writes runner root allowed start after

/-- An effect is subscribed to tracked state. -/
def Watches (effect : EffectId) (world : World) (dep : DepId) : Prop :=
  effect ∈ world.reactor.subscribersOf dep

/-- Memory has only grown, and an effect has kept its subscriptions. -/
structure Since (effect : EffectId) (before after : World) : Prop where
  memory : Memory.Grows before.memory after.memory
  kept (dep : DepId) : Watches effect before dep → Watches effect after dep

/--
A running effect has read a value by path from a live map: in one go, or first a live
map on the way, and the value from there.  Meanwhile and since then nothing was
written, and the effect has kept its subscriptions.
-/
inductive HasRead (effect : EffectId) (now : World) (value : Value) :
    World → LiveMapId → List String → Prop where
  | last {begun reading read : World} {id : LiveMapId} {keys : List String}
      (since : Since effect begun reading) (running : reading.reactor.activeEffect = some effect)
      (active : reading.reactor.isActive effect = true)
      (ran : (observe (Observe.getPath (.liveMap id) (keys.map .str))).run reading =
        (.ok value, read))
      (later : Since effect read now) : HasRead effect now value begun id keys
  | step {begun reading read : World} {id child : LiveMapId} {keys rest : List String}
      (since : Since effect begun reading) (running : reading.reactor.activeEffect = some effect)
      (active : reading.reactor.isActive effect = true)
      (ran : (observe (Observe.getPath (.liveMap id) (keys.map .str))).run reading =
        (.ok (.liveMap child), read))
      (further : HasRead effect now value read child rest) :
      HasRead effect now value begun id (keys ++ rest)

/-- On its last run an active effect has read a value by path from a live map. -/
structure LastRead (effect : EffectId) (root : LiveMapId) (raw : MapId) (path : List String)
    (value : Value) (now : World) : Prop where
  active : now.reactor.isActive effect = true
  read : ∃ begun : World, begun.memory.Fronts (.liveMap root) (.map raw) ∧
    HasRead effect now value begun root path

/-! ## Reading -/

theorem watches_track {reactor : Reactor Body} {item : DepId} (dep : DepId)
    (running : reactor.activeEffect = some effect) (active : reactor.isActive effect = true)
    (known : effect ∈ reactor.subscribersOf item ∨ item = dep) :
    effect ∈ (reactor.track dep).subscribersOf item := by
  have subscribed : (reactor.track dep).subscribersOf item =
      (reactor.subscribe effect dep).subscribersOf item := by
    unfold Reactor.track
    simp only [running, active, if_true]
    rfl
  rw [subscribed, Reactor.subscribersOf_subscribe]
  split
  case isTrue same =>
    subst same
    exact Reactor.mem_addNew.mpr (.inr rfl)
  case isFalse apart => exact known.resolve_right apart

/-- A running effect is subscribed to all that it reads. -/
theorem watches_trackAll {reactor : Reactor Body} {item : DepId} (deps : List DepId)
    (running : reactor.activeEffect = some effect) (active : reactor.isActive effect = true)
    (known : effect ∈ reactor.subscribersOf item ∨ item ∈ deps) :
    effect ∈ (reactor.trackAll deps).subscribersOf item := by
  induction deps generalizing reactor with
  | nil => exact known.resolve_right List.not_mem_nil
  | cons dep rest ih =>
      obtain ⟨touched, running', -⟩ := Reactor.touches_track dep running
      refine ih running' ((touched.active effect).trans active) ?_
      rcases known with reads | listed
      · exact .inl (watches_track dep running active (.inl reads))
      · rcases List.mem_cons.mp listed with same | later
        · exact .inl (watches_track dep running active (.inr same))
        · exact .inr later

theorem Since.refl (effect : EffectId) (world : World) : Since effect world world :=
  ⟨.refl _, fun _ => id⟩

theorem Since.trans {before middle after : World} (first : Since effect before middle)
    (second : Since effect middle after) : Since effect before after :=
  ⟨first.memory.trans second.memory, fun dep => second.kept dep ∘ first.kept dep⟩

/-- Where a running effect only reads, it keeps its subscriptions. -/
theorem since_observed {before : World} (observed : Observed before after)
    (running : before.reactor.activeEffect = some effect)
    (active : before.reactor.isActive effect = true) :
    Since effect before after ∧ after.reactor.activeEffect = some effect ∧
      after.reactor.isActive effect = true := by
  obtain ⟨grows, deps, tracked⟩ := observed
  obtain ⟨touched, running', -⟩ := Reactor.touches_trackAll deps running
  rw [← tracked] at touched running'
  refine ⟨⟨grows, fun dep known => ?_⟩, running', (touched.active effect).trans active⟩
  unfold Watches
  rw [tracked]
  exact watches_trackAll deps running active (.inl known)

/-- Reading by path in a running effect. -/
theorem observed_getPath {reading read : World} {given result : Value} {keys : List String}
    (running : reading.reactor.activeEffect = some effect)
    (active : reading.reactor.isActive effect = true)
    (ran : (observe (Observe.getPath given (keys.map .str))).run reading = (.ok result, read)) :
    ∃ memory, (Observe.getPath given (keys.map .str)).run
        (reading.memory.seeing reading.outlook) = (.ok result, memory) ∧
      read.memory = memory.settled ∧ Observed reading read ∧
        ∀ dep ∈ memory.reads, Watches effect read dep := by
  rw [run_observe] at ran
  rcases looked : (Observe.getPath given (keys.map .str)).run
    (reading.memory.seeing reading.outlook) with ⟨outcome, memory⟩
  rw [looked] at ran
  obtain ⟨rfl, rfl⟩ := Prod.mk.inj ran
  have grown := (Memory.grows_seeing reading.memory reading.outlook).trans
    ((Observe.grows_getPath looked).trans (Memory.grows_settled memory))
  refine ⟨memory, rfl, rfl, ⟨grown, _, rfl⟩, fun dep known => ?_⟩
  exact watches_trackAll _ running active (.inr (List.mem_reverse.mpr known))

theorem HasRead.since (read : HasRead effect now value world root path) :
    Since effect world now := by
  induction read with
  | last since running active ran later =>
      obtain ⟨_, -, -, observed, -⟩ := observed_getPath running active ran
      exact since.trans ((since_observed observed running active).1.trans later)
  | step since running active ran further ih =>
      obtain ⟨_, -, -, observed, -⟩ := observed_getPath running active ran
      exact since.trans ((since_observed observed running active).1.trans ih)

/-- An effect is linked to a scalar that it has read by path. -/
theorem HasRead.linked {live : LiveMap} (read : HasRead effect now value world root path)
    (found : world.memory.liveMaps[root]? = some live)
    (calm : Observe.Calm now.memory (.map live.raw)) (flat : value.isLive = false) :
    now.memory.Linked (Watches effect now) value root path := by
  induction read generalizing live with
  | @last begun reading read id keys since running active ran later =>
      obtain ⟨memory, looked, same, -, watched⟩ := observed_getPath running active ran
      obtain ⟨there, known, raw, -⟩ := since.memory.liveMaps found
      have grown : Memory.Grows memory now.memory :=
        (Memory.grows_settled memory).trans (same ▸ later.memory)
      have linked : now.memory.Linked (Watches effect now) value id (keys ++ []) :=
        Observe.linked_getPath (by exact known) (raw ▸ calm) looked grown
          (fun dep noted => later.kept dep (watched dep noted)) (.inl ⟨rfl, rfl, flat⟩)
      rw [List.append_nil] at linked
      exact linked
  | @step begun reading read id child keys rest since running active ran further ih =>
      obtain ⟨memory, looked, same, -, watched⟩ := observed_getPath running active ran
      obtain ⟨there, known, raw, -⟩ := since.memory.liveMaps found
      have later := further.since
      have grown : Memory.Grows memory now.memory :=
        (Memory.grows_settled memory).trans (same ▸ later.memory)
      have calm : Observe.Calm now.memory (.map there.raw) := raw ▸ calm
      have shows : (reading.memory.seeing reading.outlook).Hands (.liveMap id) (.map there.raw) :=
        .inl ⟨there, known, rfl⟩
      obtain ⟨plain, reached, hands⟩ := Observe.hands_getPath shows
        (fun place other known => calm place other (Memory.valueAt_of_begins grown.maps known)) looked
      have reached := Memory.valueAt_of_begins grown.maps reached
      rcases hands with shows | ⟨-, rfl⟩
      · cases plain
        case map below =>
          obtain ⟨next, found', rfl⟩ := shows
          have linked := ih (by rw [same]; exact found') fun place other known =>
            calm (keys ++ place) other (Memory.valueAt_append.mpr ⟨_, reached, known⟩)
          exact Observe.linked_getPath (by exact known) calm looked grown
            (fun dep noted => later.kept dep (watched dep noted)) (.inr ⟨child, rfl, linked⟩)
        all_goals exact shows.elim
      · cases calm _ _ reached

/-- An effect that reads by path, and only reads after that, has read the value on its last run. -/
theorem lastRead_runEffect {cell : Effect Body} {rest : Value → Act Value} {result : Value}
    (found : world.reactor.effects[effect]? = some cell) (alive : cell.active = true)
    (body : runner.perform cell.body =
      observe (Observe.getPath (.liveMap root) (path.map .str)) >>= rest)
    (reads : ∀ value, Along Observed (rest value))
    (shown : world.memory.Fronts (.liveMap root) (.map raw))
    (ran : (runEffect runner effect).run world = (.ok result, after)) :
    ∃ value middle last, LastRead effect root raw path value after ∧
      (rest value).run middle = (.ok result, last) := by
  rw [run_runEffect runner found, if_pos alive, run_withActiveEffect, body] at ran
  have active : (world.reactor.beginRun effect).isActive effect = true := by
    rw [(Reactor.touches_beginRun world.reactor effect).active]
    unfold Reactor.isActive
    rw [found]
    exact alive
  have active : ((world.withReactor (·.beginRun effect)).withReactor
      (.asEffect (some effect))).reactor.isActive effect = true := active
  have running : ((world.withReactor (·.beginRun effect)).withReactor
      (.asEffect (some effect))).reactor.activeEffect = some effect := rfl
  have shown : ((world.withReactor (·.beginRun effect)).withReactor
      (.asEffect (some effect))).memory.Fronts (.liveMap root) (.map raw) := shown
  generalize (world.withReactor (·.beginRun effect)).withReactor (.asEffect (some effect)) =
    during at ran active running shown
  rcases done : (observe (Observe.getPath (.liveMap root) (path.map .str)) >>= rest).run during
    with ⟨outcome, last⟩
  rw [done] at ran
  obtain ⟨rfl, rfl⟩ := Prod.mk.inj ran
  obtain ⟨value, middle, first, further⟩ := run_bind_ok done
  obtain ⟨_, -, -, observed, -⟩ := observed_getPath running active first
  obtain ⟨-, running', active'⟩ := since_observed observed running active
  have onward := reads value middle
  rw [further] at onward
  obtain ⟨⟨grows, kept⟩, -, last'⟩ := since_observed onward running' active'
  refine ⟨value, middle, last, ⟨last', during, shown, .last (.refl _ _) running active first ?_⟩,
    further⟩
  exact ⟨grows, kept⟩

theorem LastRead.linked (last : LastRead effect root raw path value now)
    (data : now.memory.Data root raw) (scalar : value.isScalar = true) :
    now.memory.Linked (Watches effect now) value root path := by
  obtain ⟨begun, ⟨live, found, rfl⟩, read⟩ := last.read
  have flat : value.isLive = false := by
    cases value <;> first | rfl | cases scalar
  exact read.linked found data.calm flat

/-! ## One write -/

/-- What a write by path reaches along links is the face that is linked to. -/
theorem Reaches.linked {id : LiveMapId} {own : LiveMap} {middle : World} {given : Value}
    {watched : DepId → Prop} {rest : List String}
    (reaches : Reaches runner root raw write world after id own middle given)
    (linked : world.memory.Linked watched value root (write.place ++ rest)) :
    middle.memory.Linked watched value id (write.key :: rest) := by
  obtain ⟨begun, ended, grows, ran, same⟩ := reaches.read
  unfold PathWrite.place at linked
  rw [List.append_assoc, List.singleton_append] at linked
  obtain ⟨child, face, below⟩ := Observe.getPath_linked (linked.grows grows) ran
  cases face
  rw [same]
  exact below.grows (Memory.grows_settled ended)

/-- A change of the scalar at the end of links, or of an entry on the way, is told. -/
theorem told_of_linked {id : LiveMapId} {own : LiveMap} {middle : World} {given : Value}
    {rest : List String} (reaches : Reaches runner root raw write world after id own middle given)
    (linked : world.memory.Linked (Watches effect world) value root (write.place ++ rest))
    (active : world.reactor.isActive effect = true) (dep : DepId)
    (tracked : KeyTold middle.memory own (.str write.key) dep)
    (again : ∀ effect ∈ middle.reactor.subscribersOf dep, middle.reactor.isActive effect = true →
      middle.reactor.runsOf effect < after.reactor.runsOf effect) :
    world.reactor.runsOf effect < after.reactor.runsOf effect := by
  have below := reaches.linked linked
  obtain ⟨old, has, watching⟩ : ∃ old, own.deps.find? (.str write.key) = some old ∧
      Watches effect world old := by
    cases below with
    | leaf found tracked watching entry =>
        cases reaches.found.symm.trans found
        exact ⟨_, tracked, watching⟩
    | inner found tracked watching kept below =>
        cases reaches.found.symm.trans found
        exact ⟨_, tracked, watching⟩
  obtain rfl := tracked.known has
  rw [reaches.reactor] at again
  exact again effect watching active

/-- Links that a write does not lead over stay. -/
theorem Reaches.linked_aside {id : LiveMapId} {own : LiveMap} {middle : World} {given : Value}
    {watched : DepId → Prop} (written : Value)
    (reaches : Reaches runner root raw write world after id own middle given)
    (data : world.memory.Data root raw) (linked : world.memory.Linked watched value root path)
    (aside : ¬ write.place <+: path) :
    (middle.memory.overwritten id (.str write.key) written).Linked watched value root path := by
  have data' := data.grows reaches.grows
  obtain ⟨live, found, rfl⟩ := data'.shown
  have reached := reaches.reached
  rw [← data.valueAt_eq reaches.grows] at reached
  refine (linked.grows reaches.grows).overwritten_aside reaches.found found ?_
  rintro place step rest split there rfl
  obtain rfl := data'.tree.apart there reached
  refine aside ⟨rest, ?_⟩
  rw [split]
  unfold PathWrite.place
  rw [List.append_assoc, List.singleton_append]

/-- Links to the entry that is written lead to what is written. -/
theorem Reaches.linked_end {id : LiveMapId} {own : LiveMap} {middle : World} {given : Value}
    {watched : DepId → Prop} (written : Value)
    (reaches : Reaches runner root raw write world after id own middle given)
    (data : world.memory.Data root raw)
    (linked : world.memory.Linked watched value root write.place) :
    (middle.memory.overwritten id (.str write.key) written).Linked watched written root
      write.place := by
  have data' := data.grows reaches.grows
  obtain ⟨live, found, rfl⟩ := data'.shown
  have reached := reaches.reached
  rw [← data.valueAt_eq reaches.grows] at reached
  exact (linked.grows reaches.grows).overwritten_end reaches.found found reached
    fun other there => data'.tree.apart there reached

/-- An effect that is linked to a scalar. -/
structure Follows (effect : EffectId) (root : LiveMapId) (path : List String) (value : Value)
    (world : World) : Prop where
  active : world.reactor.isActive effect = true
  linked : ∃ now, value.alike now = true ∧
    world.memory.Linked (Watches effect world) now root path

/-- A write on the way that is heard, or one elsewhere, runs the effect again or keeps it linked. -/
theorem follows_perform (settled : Settled runner root raw world) (scalar : value.isScalar = true)
    (follows : Follows effect root path value world) (json : write.IsJson)
    (ran : (write.perform runner root).run world = (.ok (), after))
    (heard : write.OnWay path → ¬ world.Silent after) :
    world.reactor.runsOf effect < after.reactor.runsOf effect ∨
      Follows effect root path value after := by
  obtain ⟨id, own, middle, given, reaches, -, tends, grows, outcome⟩ :=
    settled_perform settled json ran
  obtain ⟨now, alike, linked⟩ := follows.linked
  -- what is linked to stays linked, if the effect is not run again
  have stays {last : Value} (alike : value.alike last = true)
      (linked : (middle.memory.overwritten id (.str write.key)
        (middle.memory.toRaw given)).Linked (Watches effect world) last root path) :
      world.reactor.runsOf effect < after.reactor.runsOf effect ∨
        Follows effect root path value after := by
    rcases Nat.lt_or_eq_of_le (tends.runs effect) with again | same
    · exact .inl again
    · refine .inr ⟨(tends.active effect).trans follows.active, last, alike, ?_⟩
      exact (linked.mono fun dep => (tends.still effect dep same.symm).mpr).grows grows
  by_cases through : write.place <+: path
  · obtain ⟨rest, rfl⟩ := through
    rcases outcome with ⟨before, memory, memory', same, entry, unchanged⟩ |
      ⟨dep, tracked, longer, again, -⟩
    · cases rest with
      | nil =>
          have below := reaches.linked linked
          rw [List.append_nil] at linked stays ⊢
          cases below with
          | leaf found tracked watching entry' =>
              cases reaches.found.symm.trans found
              cases entry.symm.trans entry'
              have scalar' := Value.isScalar_of_alike scalar alike
              rw [Observe.run_hasChanged scalar'] at unchanged
              have alike' : now.alike (middle.memory.toRaw given) = true := by
                simpa using congrArg Prod.fst unchanged
              exact stays (Value.alike_trans scalar alike alike')
                (reaches.linked_end _ settled.data linked)
      | cons next rest =>
          refine absurd ?_ (heard ⟨next, rest, rfl⟩)
          unfold World.Silent
          rw [same, reaches.reactor]
    · exact .inl (told_of_linked reaches linked follows.active dep tracked again)
  · exact stays alike (reaches.linked_aside _ settled.data linked through)

/-- What writes by path leave as it was, whatever they write. -/
theorem settled_writes (settled : Settled runner root raw start)
    (writes : Writes runner root allowed start after) :
    Settled runner root raw after ∧ Reactor.Tends start.reactor after.reactor ∧
      start.memory.depCount ≤ after.memory.depCount := by
  induction writes with
  | none => exact ⟨settled, .refl _, Nat.le_refl _⟩
  | more write writes json ran fine ih =>
      obtain ⟨settled, tends, count⟩ := ih
      obtain ⟨_, _, _, _, reaches, settled, tends', grows, -⟩ := settled_perform settled json ran
      exact ⟨settled, tends.trans tends',
        Nat.le_trans (Nat.le_trans count reaches.grows.depCount) grows.depCount⟩

theorem follows_writes (settled : Settled runner root raw start)
    (scalar : value.isScalar = true) (follows : Follows effect root path value start)
    (writes : Writes runner root
      (fun write before after => write.OnWay path → ¬ before.Silent after) start after) :
    start.reactor.runsOf effect < after.reactor.runsOf effect ∨
      Follows effect root path value after := by
  induction writes with
  | none => exact .inr follows
  | more write writes json ran heard ih =>
      obtain ⟨settled, tends, -⟩ := settled_writes settled writes
      obtain ⟨_, _, _, _, -, -, tends', -⟩ := settled_perform settled json ran
      rcases ih with again | follows
      · exact .inl (Nat.lt_of_lt_of_le again (tends'.runs effect))
      · exact (follows_perform settled scalar follows json ran heard).imp_left
          (Nat.lt_of_le_of_lt (tends.runs effect))

theorem Follows.valueAt (follows : Follows effect root path value world)
    (data : world.memory.Data root raw) :
    ∃ now, world.memory.valueAt (.map raw) path = some now ∧ value.alike now = true := by
  obtain ⟨now, alike, linked⟩ := follows.linked
  obtain ⟨live, found, rfl⟩ := data.shown
  exact ⟨now, linked.valueAt_eq found, alike⟩

/-! ## Writes that nobody hears -/

variable {faces : LiveMapId} {deps : DepId} {place : List String}

/-- The face that a write by path reaches is kept for its path. -/
theorem Reaches.keptAt {id : LiveMapId} {own : LiveMap} {middle : World} {given : Value}
    (reaches : Reaches runner root raw write world after id own middle given)
    (data : world.memory.Data root raw) : middle.memory.keptAt root write.path = some id := by
  obtain ⟨begun, ended, grows, ran, same⟩ := reaches.read
  have there := (data.grows grows).grows (Observe.grows_getPath ran)
  obtain ⟨start, face, kept⟩ :=
    Observe.keptAt_getPath (.inl (data.grows grows).shown) there.calm ran
  cases face
  have faces : ended.settled.liveMaps = ended.liveMaps := rfl
  rw [same, Memory.keptAt_congr faces]
  exact kept

theorem severed_perform (settled : Settled runner root raw world) (json : write.IsJson)
    (ran : (write.perform runner root).run world = (.ok (), after))
    (severed : world.memory.Severed faces deps root place) :
    after.memory.Severed faces deps root place := by
  obtain ⟨id, own, middle, given, reaches, -, -, grows, -⟩ := settled_perform settled json ran
  exact ((severed.grows reaches.grows).overwritten id write.key _).grows grows

/-- A write severs the links over what it writes. -/
theorem severed_of_perform (settled : Settled runner root raw world) (json : write.IsJson)
    (ran : (write.perform runner root).run world = (.ok (), after)) :
    ∃ faces deps, world.memory.depCount ≤ deps ∧
      after.memory.Severed faces deps root write.place := by
  obtain ⟨id, own, middle, given, reaches, -, -, grows, -⟩ := settled_perform settled json ran
  exact ⟨_, _, reaches.grows.depCount,
    (Memory.severed_overwritten (reaches.keptAt settled.data) write.key _).grows grows⟩

theorem severed_writes (settled : Settled runner root raw start)
    (writes : Writes runner root allowed start after)
    (severed : start.memory.Severed faces deps root place) :
    after.memory.Severed faces deps root place := by
  induction writes with
  | none => exact severed
  | more write writes json ran fine ih =>
      exact severed_perform (settled_writes settled writes).1 json ran ih

/-- A write beyond severed links does not run an effect that knows older tracked state only. -/
theorem unheard_perform (settled : Settled runner root raw world) (json : write.IsJson)
    (ran : (write.perform runner root).run world = (.ok (), after))
    (severed : world.memory.Severed faces deps root place) (beyond : place <+: write.path)
    (older : ∀ dep, Watches effect world dep → dep < deps) :
    after.reactor.runsOf effect = world.reactor.runsOf effect := by
  obtain ⟨id, own, middle, given, reaches, -, -, grows, outcome⟩ :=
    settled_perform settled json ran
  have severed := severed.grows reaches.grows
  have new : faces ≤ id := by
    obtain ⟨rest, split⟩ := beyond
    have kept := reaches.keptAt settled.data
    rw [← split] at kept
    exact severed.beyond kept
  have unread {dep : DepId} (new : deps ≤ dep) :
      effect ∉ middle.reactor.subscribersOf dep := by
    rw [reaches.reactor]
    exact fun reads => absurd (older dep reads) (Nat.not_lt_of_le new)
  rcases outcome with ⟨before, memory, memory', same, entry, unchanged⟩ |
    ⟨dep, tracked, longer, again, only⟩
  · rw [same, reaches.reactor]
  · rw [only effect ?_ ?_, reaches.reactor]
    · refine unread ?_
      cases has : own.deps.find? (.str write.key) with
      | none => exact Nat.le_trans severed.count (tracked.fresh has)
      | some old =>
          rw [tracked.known has]
          have known : (middle.memory.liveMapAt id).deps.find? (.str write.key) = some old := by
            rw [Memory.liveMapAt_of_found reaches.found]
            exact has
          exact severed.newDeps new known
    · exact unread (severed.newKeys new reaches.found)

theorem prefix_path_of_onWay {cut leaf : PathWrite} (onWay : cut.OnWay leaf.place) :
    cut.place <+: leaf.path := by
  obtain ⟨next, rest, split⟩ := onWay
  have first : cut.place <+: leaf.place := ⟨_, split.symm⟩
  have second : leaf.path <+: leaf.place := ⟨_, rfl⟩
  refine List.prefix_of_prefix_length_le first second ?_
  have lengths := congrArg List.length split
  simp only [PathWrite.place, List.length_append, List.length_cons, List.length_nil] at lengths ⊢
  omega

/-! ## Main theorem -/

/--
Where no write on the way to a scalar that an effect has read goes unheard, a change
of the scalar runs the effect again.  Once an entry on the way is written without
running the effect again, no write of the scalar does so.
-/
theorem nested_updates (settled : Settled runner root raw start)
    (last : LastRead effect root raw path value start) (scalar : value.isScalar = true)
    (known : ∀ dep, Watches effect start dep → dep < start.memory.depCount) :
    (∀ after, Writes runner root
        (fun write before after => write.OnWay path → ¬ before.Silent after) start after →
      start.reactor.runsOf effect < after.reactor.runsOf effect ∨
        ∃ now, after.memory.valueAt (.map raw) path = some now ∧ value.alike now = true) ∧
    (∀ before severed later after cut write,
      Writes runner root (fun _ _ _ => True) start before →
      PathWrite.IsJson cut → (cut.perform runner root).run before = (.ok (), severed) →
      cut.OnWay path →
      Writes runner root (fun _ _ _ => True) severed later →
      later.reactor.runsOf effect = start.reactor.runsOf effect →
      PathWrite.IsJson write → write.place = path →
      (write.perform runner root).run later = (.ok (), after) →
      after.reactor.runsOf effect = later.reactor.runsOf effect) := by
  constructor
  case left =>
    intro after writes
    have follows : Follows effect root path value start :=
      ⟨last.active, value, Value.alike_refl scalar, last.linked settled.data scalar⟩
    exact (follows_writes settled scalar follows writes).imp_right
      (Follows.valueAt · (settled_writes settled writes).1.data)
  case right =>
    rintro before severed later after cut write writes json ran onWay writes' still json' rfl ran'
    obtain ⟨settled', tends, count⟩ := settled_writes settled writes
    obtain ⟨_, _, _, _, -, settled'', tends', -⟩ := settled_perform settled' json ran
    obtain ⟨settledLast, tends'', -⟩ := settled_writes settled'' writes'
    obtain ⟨faces, deps, newer, cut⟩ := severed_of_perform settled' json ran
    refine unheard_perform settledLast json' ran' (severed_writes settled'' writes' cut)
      (prefix_path_of_onWay onWay) fun dep watching => ?_
    have tends := (tends.trans tends').trans tends''
    have older := known dep ((tends.still effect dep still).mp watching)
    exact Nat.lt_of_lt_of_le older (Nat.le_trans count newer)

/-! ## One effect -/

/-- Runs of effects that read one entry of an inner map. -/
def innerReading : Runner :=
  ⟨8, fun _ => observe (Observe.getPath (.liveMap 0) (["a", "x"].map .str))⟩

def innerData : Datum :=
  .map [(.str "a", .map [(.str "x", .int 1)])]

/-- A live map and an effect that has not run. -/
def innerUnread : World :=
  ((do
    let _ ← observe do Observe.makeLive (← innerData.build)
    newMember (.program "reader" []) .post : Act EffectId).run .empty).2

def innerRead : World :=
  ((runEffect innerReading 0).run innerUnread).2

/-- The world after a write by path. -/
def afterWrite (write : PathWrite) (world : World) : World :=
  ((write.perform innerReading 0).run world).2

theorem run_afterWrite {write : PathWrite}
    (returned : ((write.perform innerReading 0).run world).1 = .ok ()) :
    (write.perform innerReading 0).run world = (.ok (), afterWrite write world) :=
  Prod.ext returned rfl

/-- Write the inner map by itself. -/
def innerItself : PathWrite :=
  ⟨[], "a", none⟩

def innerChange : PathWrite :=
  ⟨["a"], "x", some (.int 2)⟩

theorem run_innerRead :
    (runEffect innerReading 0).run innerUnread = (.ok (.int 1), innerRead) := by
  have value : ((runEffect innerReading 0).run innerUnread).1 = .ok (.int 1) := by cbv
  unfold innerRead
  generalize (runEffect innerReading 0).run innerUnread = ran at value ⊢
  exact Prod.ext value rfl

theorem data_innerUnread : innerUnread.memory.Data 0 1 where
  shown := ⟨_, rfl, rfl⟩
  tree := by
    have built : innerData.build.run .empty = (.ok (.map 1), (innerData.build.run .empty).2) := rfl
    exact Memory.tree_of_maps_eq (tree_build (by decide) built) rfl

theorem settled_innerRead : Settled innerReading 0 1 innerRead := by
  have reads (body : Body) : Along Observed (innerReading.perform body) :=
    observed_observe (looks_grows.getPath _ _)
  have readers (reactor : Reactor Body) : Readers innerReading reactor :=
    fun _ cell _ => reads cell.body
  obtain ⟨tended, -, -⟩ := tended_runEffect (readers innerUnread.reactor) (by rfl) run_innerRead
  constructor
  case rest =>
    constructor
    all_goals decide +kernel
  case readers => exact readers _
  case data => exact data_innerUnread.grows tended.memory

theorem lastRead_innerRead : LastRead 0 0 1 ["a", "x"] (.int 1) innerRead := by
  have found : innerUnread.reactor.effects[0]? =
      some ⟨.program "reader" [], .post, true, 0, []⟩ := rfl
  have body : innerReading.perform (.program "reader" []) =
      observe (Observe.getPath (.liveMap 0) (["a", "x"].map .str)) >>= pure := (bind_pure _).symm
  obtain ⟨value, middle, last, read, same⟩ := lastRead_runEffect found rfl body
    (fun value => composable_observed.pure value) data_innerUnread.shown run_innerRead
  cases same
  exact read

theorem known_innerRead (dep : DepId) (watching : Watches 0 innerRead dep) :
    dep < innerRead.memory.depCount := by
  refine Nat.lt_of_not_le fun outside => ?_
  have few : innerRead.reactor.subscribers.size ≤ innerRead.memory.depCount := by decide +kernel
  unfold Watches Reactor.subscribersOf at watching
  rw [Array.getElem?_eq_none (Nat.le_trans few outside)] at watching
  cases watching

theorem nested_updates_innerRead :
    innerRead.reactor.runsOf 0 < (afterWrite innerChange innerRead).reactor.runsOf 0 ∧
      (afterWrite innerChange (afterWrite innerItself innerRead)).reactor.runsOf 0 =
        innerRead.reactor.runsOf 0 ∧
      (afterWrite innerChange (afterWrite innerItself innerRead)).memory.valueAt (.map 1)
        ["a", "x"] = some (.int 2) := by
  obtain ⟨heard, unheard⟩ :=
    nested_updates settled_innerRead lastRead_innerRead (by rfl) known_innerRead
  have json : innerChange.IsJson := by
    rintro datum given
    cases given
    rfl
  have json' : innerItself.IsJson := fun datum given => nomatch given
  have wrote : ((innerChange.perform innerReading 0).run innerRead).1 = .ok () := by cbv
  have severed : ((innerItself.perform innerReading 0).run innerRead).1 = .ok () := by cbv
  have lost : ((innerChange.perform innerReading 0).run
      (afterWrite innerItself innerRead)).1 = .ok () := by cbv
  have still : (afterWrite innerItself innerRead).reactor.runsOf 0 =
      innerRead.reactor.runsOf 0 := by decide +kernel
  refine ⟨?_, ?_, by cbv⟩
  · refine (heard _ (.more innerChange .none json (run_afterWrite wrote) ?_)).resolve_right ?_
    · rintro ⟨next, rest, split⟩
      cases split
    · rintro ⟨now, found, same⟩
      have changed : (afterWrite innerChange innerRead).memory.valueAt (.map 1) ["a", "x"] =
          some (.int 2) := by cbv
      rw [changed] at found
      cases found
      cases same
  · have same := unheard innerRead _ _ _ innerItself innerChange .none json'
      (run_afterWrite severed) ⟨"x", [], rfl⟩ .none still json rfl (run_afterWrite lost)
    exact same.trans still

end Act

end ReactiveSchema
