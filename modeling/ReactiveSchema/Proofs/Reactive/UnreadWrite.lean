import ReactiveSchema.Proofs.Memory.Overwrite
import ReactiveSchema.Proofs.Reactive.SingleWrite
import ReactiveSchema.Proofs.Reactive.Unread

/-!
# Writes of what was not read

A write of an entry of a live map, or its removal, first reaches the plain map and then tells,
in a batch of its own, the key set if that is another one now, and the key if its value counts
as changed.  Made at top level, it works the queues off from the world in which all this is
told, which is the one that a batch around the write is in when it is about to end.
-/

namespace ReactiveSchema

variable {reads : List DepId} {reader : EffectId} {runner : Runner} {world after : World}

/-! ## What a write spares -/

namespace Memory

variable {map : LiveMapId} {key : Value}

/-- Was the state of a key not read, if it is tracked at all? -/
def keyUnread (memory : Memory) (reads : List DepId) (map : LiveMapId) (key : Value) : Prop :=
  ∀ dep, (memory.liveMapAt map).deps.find? key = some dep → dep ∉ reads

/-- Was the key set of a live map not read? -/
def keysUnread (memory : Memory) (reads : List DepId) (map : LiveMapId) : Prop :=
  (memory.liveMapAt map).keysDep ∉ reads

/-- The entry of a key in the plain map behind a live one. -/
def entryAt (memory : Memory) (map : LiveMapId) (key : Value) : Option Value :=
  (memory.mapAt (memory.rawMap map)).find? key

/-- An entry does not count as changed by a value, compared once that is written. -/
def Unmoved (memory : Memory) (map : LiveMapId) (key old written : Value) : Prop :=
  ∀ outlook, ((Observe.hasChanged old written).run
    ((memory.overwritten map key written).settled.seeing outlook)).1 = .ok false

/-- Memory without an entry of the plain map behind a live one. -/
def withoutEntry (memory : Memory) (map : LiveMapId) (key : Value) : Memory :=
  let raw := memory.rawMap map
  { memory with
    maps := memory.maps.setIfInBounds raw ((memory.mapAt raw).erase key) }.droppingFace map key

/-- The key set was not read or stays, and the entry was not read or does not count as changed. -/
structure WriteSpares (memory : Memory) (reads : List DepId) (map : LiveMapId)
    (key written : Value) : Prop where
  keys : memory.entryAt map key = none → memory.keysUnread reads map
  entry : memory.keyUnread reads map key ∨
    ∃ old, memory.entryAt map key = some old ∧ memory.Unmoved map key old written

/-- Neither an entry that is removed was read, nor the key set. -/
def RemovalSpares (memory : Memory) (reads : List DepId) (map : LiveMapId) (key : Value) : Prop :=
  memory.keysUnread reads map ∧ memory.keyUnread reads map key

/-- Forgetting a face leaves it open what is tracked. -/
theorem liveMapAt_droppingFace (memory : Memory) (map : LiveMapId) (key : Value) :
    ((memory.droppingFace map key).liveMapAt map).deps = (memory.liveMapAt map).deps ∧
      ((memory.droppingFace map key).liveMapAt map).keysDep =
        (memory.liveMapAt map).keysDep := by
  unfold liveMapAt droppingFace
  dsimp only
  rw [Array.getElem?_modify, if_pos rfl]
  cases memory.liveMaps[map]? with
  | none => exact ⟨rfl, rfl⟩
  | some live => exact ⟨rfl, rfl⟩

/-- The state of a key is what it was, or there was none. -/
theorem keyed_known {before memory : Memory} (grows : Grows before memory) (map : LiveMapId)
    (key : Value) : (before.liveMapAt map).deps.find? key = some (memory.keyed map key).1 ∨
      before.depCount ≤ (memory.keyed map key).1 := by
  unfold keyed
  split
  case h_1 dep known => exact grows.newDeps known
  case h_2 => exact .inr grows.depCount

end Memory

/-- The world with other memory, once the running effect has read what memory noted. -/
def World.having (world : World) (memory : Memory) : World :=
  { world with
    memory := memory.settled
    reactor := world.reactor.trackAll world.memory.reads.reverse }

namespace Act

variable {α β : Type}

/-! ## Telling -/

theorem leaves_triggerKey {map : LiveMapId} {key : Value} {before : Memory}
    (grows : Memory.Grows before world.memory) (unread : before.keyUnread reads map key)
    (below : ∀ dep ∈ reads, dep < before.depCount) (busy : world.reactor.idle = false) :
    Leaves reads reader world ((triggerKey runner map key).run world).2 := by
  have looked : Leaves reads reader world _ := leaves_observe (Observe.keyDep map key) world
  unfold triggerKey
  rw [run_bind]
  rcases ran : (observe (Observe.keyDep map key)).run world with ⟨fault | dep, middle⟩ <;>
    rw [ran] at looked <;> dsimp only
  · exact looked
  · refine composable_leaves.trans looked
      (leaves_trigger (fun read => ?_) (looked.toKept.idle.trans busy))
    have hashable : key.isHashable = true := by
      refine Classical.byContradiction fun unhashable => ?_
      unfold Observe.keyDep at ran
      rw [run_observe, run_bind, Observe.run_checkKey_unhashable unhashable] at ran
      cases ran
    rw [run_observe, Observe.run_keyDep hashable] at ran
    cases ran
    rcases Memory.keyed_known (grows.trans (Memory.grows_seeing _ _)) map key with known | new
    · exact unread _ known read
    · exact Nat.not_lt_of_le new (below _ read)

/-- Telling a key set and a key disturbs nobody who has read neither. -/
theorem leaves_triggerBoth {map : LiveMapId} {key : Value}
    (keys : world.memory.keysUnread reads map) (unread : world.memory.keyUnread reads map key)
    (below : ∀ dep ∈ reads, dep < world.memory.depCount) (busy : world.reactor.idle = false) :
    Leaves reads reader world
      ((do triggerKeys runner map; triggerKey runner map key : Act Unit).run world).2 := by
  have same : (triggerKeys runner map).run world =
      (.ok (), world.withReactor (·.tell (world.memory.liveMapAt map).keysDep)) :=
    run_trigger_busy _ busy
  have told : Leaves reads reader world ((triggerKeys runner map).run world).2 :=
    leaves_trigger keys busy
  rw [same] at told
  rw [run_bind_of_ok same]
  exact composable_leaves.trans told
    (leaves_triggerKey (.refl _) unread below (told.toKept.idle.trans busy))

/-- Telling of a key that has another value disturbs nobody who has not read it. -/
theorem leaves_tellChanged {map : LiveMapId} {key old written : Value}
    (spared : world.memory.keyUnread reads map key ∨
      ((observe (Observe.hasChanged old written)).run world).1 = .ok false)
    (below : ∀ dep ∈ reads, dep < world.memory.depCount) (busy : world.reactor.idle = false) :
    Leaves reads reader world
      ((tellWritten runner map key written (some old)).run world).2 := by
  have asked : Leaves reads reader world _ :=
    leaves_observe (Observe.hasChanged old written) world
  have grows := (observed_observe (looks_grows.hasChanged old written) world).memory
  unfold tellWritten
  rw [run_bind]
  rcases compared : (observe (Observe.hasChanged old written)).run world with
    ⟨fault | changed, middle⟩ <;> rw [compared] at asked grows spared <;> dsimp only
  · exact asked
  · cases changed with
    | false => exact asked
    | true =>
        have unread := spared.resolve_right nofun
        exact composable_leaves.trans asked
          (leaves_triggerKey grows unread below (asked.toKept.idle.trans busy))

/-! ## One batch deeper -/

/-- While effects are put off anyway, a computation does the same one batch deeper. -/
structure Deepens (body : Act α) : Prop where
  same {world : World} : world.reactor.idle = false →
    body.run (world.withReactor .deeper) =
      ((body.run world).1, (body.run world).2.withReactor .deeper)
  busy {world : World} : world.reactor.idle = false → (body.run world).2.reactor.idle = false

theorem Deepens.bind {first : Act α} {next : α → Act β} (start : Deepens first)
    (rest : ∀ value, Deepens (next value)) : Deepens (first >>= next) where
  same {world} busy := by
    have still := start.busy busy
    rw [run_bind, run_bind, start.same busy]
    rcases ran : first.run world with ⟨fault | value, middle⟩
    · rfl
    · rw [ran] at still
      exact (rest value).same still
  busy {world} busy := by
    have still := start.busy busy
    rw [run_bind]
    rcases ran : first.run world with ⟨fault | value, middle⟩ <;> rw [ran] at still
    · exact still
    · exact (rest value).busy still

theorem deepens_observe (look : Observe α) : Deepens (observe look) where
  same {world} busy := by
    rw [run_observe, run_observe, Reactor.trackAll_eq_signalAll, Reactor.trackAll_eq_signalAll,
      World.withReactor_reactor, Reactor.signalAll_deeper]
    rfl
  busy {world} busy := (Reactor.keeps_trackAll world.reactor _).toKept.idle.trans busy

theorem deepens_trigger (dep : DepId) : Deepens (trigger runner dep) where
  same {world} busy := by
    have deep : (world.withReactor .deeper).reactor.idle = false := rfl
    have told : world.reactor.deeper.tell dep = (world.reactor.tell dep).deeper :=
      Reactor.signal_deeper world.reactor (.told dep)
    rw [run_trigger_busy dep busy, run_trigger_busy dep deep]
    exact congrArg (fun reactor => (Except.ok (), { world with reactor })) told
  busy {world} busy := by
    rw [run_trigger_busy dep busy]
    exact (Reactor.kept_signal world.reactor (.told dep)).idle.trans busy

theorem deepens_triggerKeys (map : LiveMapId) : Deepens (triggerKeys runner map) where
  same {world} busy := (deepens_trigger (world.memory.liveMapAt map).keysDep).same busy
  busy {world} busy := (deepens_trigger (world.memory.liveMapAt map).keysDep).busy busy

theorem deepens_triggerKey (map : LiveMapId) (key : Value) :
    Deepens (triggerKey runner map key) :=
  (deepens_observe _).bind fun _ => deepens_trigger _

theorem deepens_tellWritten (map : LiveMapId) (key written : Value) (old : Option Value) :
    Deepens (tellWritten runner map key written old) := by
  cases old with
  | none => exact (deepens_triggerKeys map).bind fun _ => deepens_triggerKey map key
  | some old =>
      refine (deepens_observe _).bind fun changed => ?_
      cases changed with
      | true => exact deepens_triggerKey map key
      | false => exact ⟨fun _ => rfl, id⟩

/--
At its end a computation works off the queues that it would leave behind within a batch, unless
it leaves them.
-/
structure Ends (runner : Runner) (body : Act Unit) : Prop where
  ended {world after : World} : body.run world = (.ok (), after) →
    after = (body.run (world.withReactor .deeper)).2.withReactor .shallower ∨
      (flush runner).run ((body.run (world.withReactor .deeper)).2.withReactor .shallower) =
        (.ok (), after)

theorem ends_batch {inside : Act Unit} (deepens : Deepens inside) :
    Ends runner (batch runner inside) := by
  refine ⟨fun {world after} ran => ?_⟩
  have deep : (world.withReactor .deeper).reactor.idle = false := rfl
  have same := deepens.same deep
  have still := deepens.busy deep
  rw [run_batch, run_ensuring] at ran ⊢
  rcases once : inside.run (world.withReactor .deeper) with ⟨result, last⟩
  rw [once] at ran same still
  have back : (last.withReactor .deeper).reactor.shallower = last.reactor := rfl
  have left : (leaveBatch runner).run (last.withReactor .deeper) = (.ok (), last) := by
    rw [run_leaveBatch, back, still, Bool.false_and, if_neg Bool.false_ne_true]
    rfl
  rw [same]
  dsimp only at ran ⊢
  rw [left]
  dsimp only
  rw [run_leaveBatch] at ran
  split at ran
  case h_1 ended =>
    obtain ⟨rfl, rfl⟩ := Prod.mk.inj ran
    split at ended
    · exact .inr ended
    · exact .inl (Prod.mk.inj ended).2.symm
  case h_2 => cases (Prod.mk.inj ran).1

theorem Ends.afterLook (look : Observe α) {next : α → Act Unit}
    (rest : ∀ value, Ends runner (next value)) : Ends runner (observe look >>= next) := by
  refine ⟨fun {world after} ran => ?_⟩
  have same : (observe look).run (world.withReactor .deeper) =
      (((observe look).run world).1, ((observe look).run world).2.withReactor .deeper) := by
    rw [run_observe, run_observe, Reactor.trackAll_eq_signalAll, Reactor.trackAll_eq_signalAll,
      World.withReactor_reactor, Reactor.signalAll_deeper]
    rfl
  rw [run_bind] at ran ⊢
  rw [same]
  rcases looked : (observe look).run world with ⟨fault | value, middle⟩ <;> rw [looked] at ran
  · cases (Prod.mk.inj ran).1
  · exact (rest value).ended ran

theorem ends_liveMapSet (map : LiveMapId) (key value : Value) :
    Ends runner (liveMapSet runner map key value) := by
  refine ⟨fun {world after} ran => ?_⟩
  rw [liveMapSet_eq, run_bind, run_get] at ran ⊢
  have rest (written : Value) : Ends runner (do
      let old ← observe (plainEntry map key)
      observe do
        Observe.mapSet ((← get).rawMap map) key written
        dropFace map key
      batch runner (tellWritten runner map key written old)) :=
    .afterLook _ fun old => .afterLook _ fun _ =>
      ends_batch (deepens_tellWritten map key written old)
  exact (rest _).ended ran

theorem ends_liveMapDelete (map : LiveMapId) (key : Value) :
    Ends runner (liveMapDelete runner map key) :=
  .afterLook _ fun _ =>
    ends_batch ((deepens_triggerKeys map).bind fun _ => deepens_triggerKey map key)

/-! ## Writing -/

theorem run_liveMapSet {map : LiveMapId} {key : Value} (value : Value)
    (hashable : key.isHashable = true) (world : World) :
    (liveMapSet runner map key value).run world =
      (batch runner (tellWritten runner map key (world.memory.toRaw value)
        (world.memory.entryAt map key))).run
          (world.having (world.memory.overwritten map key (world.memory.toRaw value))) := by
  have looked : (observe (plainEntry map key)).run world =
      (.ok (world.memory.entryAt map key), world.having world.memory) := by
    rw [run_observe, run_plainEntry map hashable]
    rfl
  have wrote : (observe do
      Observe.mapSet ((← get).rawMap map) key (world.memory.toRaw value)
      dropFace map key).run (world.having world.memory) =
        (.ok (), world.having (world.memory.overwritten map key (world.memory.toRaw value))) := by
    rw [run_observe, run_write map hashable]
    rfl
  rw [liveMapSet_eq, run_bind, run_get]
  dsimp only
  rw [run_bind_of_ok looked, run_bind_of_ok wrote]

/-- Remove an entry of the plain map behind a live one, and the face that was kept for it. -/
def removing (map : LiveMapId) (key : Value) : Observe Unit := do
  Observe.mapDelete ((← get).rawMap map) key
  dropFace map key

theorem liveMapDelete_eq (runner : Runner) (map : LiveMapId) (key : Value) :
    liveMapDelete runner map key = (do
      observe (removing map key)
      batch runner do
        triggerKeys runner map
        triggerKey runner map key) := by
  rfl

/-- Who removes an entry leaves memory without it, if the key was there at all. -/
theorem eq_withoutEntry {map : LiveMapId} {key : Value} {memory later : Memory}
    (ran : (removing map key).run memory = (.ok (), later)) :
    later = memory.withoutEntry map key := by
  unfold removing at ran
  rw [run_bind, run_get] at ran
  dsimp only at ran
  unfold Observe.mapDelete at ran
  rw [run_bind, run_bind] at ran
  by_cases hashable : key.isHashable = true
  · rw [Observe.run_checkKey hashable] at ran
    dsimp only at ran
    rw [run_bind, run_get] at ran
    dsimp only at ran
    by_cases known : (memory.mapAt (memory.rawMap map)).contains key = true
    · rw [if_pos known] at ran
      cases ran
      rfl
    · rw [if_neg known] at ran
      cases ran
  · rw [Observe.run_checkKey_unhashable hashable] at ran
    cases ran

/-! ## Within another batch -/

/-- A batch within another one disturbs nobody whom what is done in it does not disturb. -/
theorem leaves_batch {inside : Act α} (busy : world.reactor.idle = false)
    (each : Leaves reads reader (world.withReactor .deeper)
      (inside.run (world.withReactor .deeper)).2) :
    Leaves reads reader world ((batch runner inside).run world).2 := by
  rw [run_batch, run_ensuring]
  rcases ran : inside.run (world.withReactor .deeper) with ⟨result, last⟩
  rw [ran] at each
  have back : Leaves reads reader world (last.withReactor .shallower) :=
    ⟨⟨each.older, (congrArg (· - 1) each.batchDepth).trans (Nat.add_sub_cancel _ 1),
        each.flushing, each.activeEffect, each.activeScope⟩,
      ⟨each.undisturbed.untold, each.undisturbed.unrun⟩⟩
  have deferred : last.reactor.shallower.idle = false := back.toKept.idle.trans busy
  rw [run_leaveBatch, deferred, Bool.false_and, if_neg Bool.false_ne_true]
  exact back

theorem leaves_having (memory : Memory) : Leaves reads reader world (world.having memory) :=
  ⟨(Reactor.keeps_trackAll world.reactor _).toKept, Reactor.undisturbed_trackAll _⟩

theorem leaves_liveMapSet {map : LiveMapId} {key value : Value}
    (spares : world.memory.WriteSpares reads map key (world.memory.toRaw value))
    (below : ∀ dep ∈ reads, dep < world.memory.depCount) (busy : world.reactor.idle = false) :
    Leaves reads reader world ((liveMapSet runner map key value).run world).2 := by
  by_cases hashable : key.isHashable = true
  case neg =>
    have refused : (observe (plainEntry map key)).run world =
        (.error (.failure (.unhashable key.typeName)), world.having world.memory) := by
      rw [run_observe]
      unfold plainEntry
      rw [run_bind, Observe.run_checkKey_unhashable hashable]
      rfl
    rw [liveMapSet_eq, run_bind, run_get]
    dsimp only
    rw [run_bind, refused]
    exact leaves_having world.memory
  case pos =>
    rw [run_liveMapSet value hashable]
    generalize world.memory.toRaw value = written at spares ⊢
    have having : Leaves reads reader world
        (world.having (world.memory.overwritten map key written)) := leaves_having _
    have busy := having.toKept.idle.trans busy
    refine composable_leaves.trans having (leaves_batch busy ?_)
    obtain ⟨deps, keysDep⟩ := Memory.liveMapAt_droppingFace
      (world.memory.writeEntry (world.memory.rawMap map) key written) map key
    have unread (untracked : world.memory.keyUnread reads map key) :
        (world.memory.overwritten map key written).keyUnread reads map key := by
      unfold Memory.keyUnread
      exact deps.symm ▸ untracked
    cases old : world.memory.entryAt map key with
    | none =>
        have keys : (world.memory.overwritten map key written).keysUnread reads map := by
          unfold Memory.keysUnread
          exact keysDep.symm ▸ spares.keys old
        have untracked := spares.entry.resolve_right fun ⟨_, known, _⟩ => by
          rw [old] at known
          cases known
        exact leaves_triggerBoth keys (unread untracked) below rfl
    | some before =>
        refine leaves_tellChanged ?_ below rfl
        refine spares.entry.imp unread fun ⟨_, known, unmoved⟩ => ?_
        cases old.symm.trans known
        rw [run_observe]
        exact unmoved _

theorem leaves_liveMapDelete {map : LiveMapId} {key : Value}
    (spares : world.memory.RemovalSpares reads map key)
    (below : ∀ dep ∈ reads, dep < world.memory.depCount) (busy : world.reactor.idle = false) :
    Leaves reads reader world ((liveMapDelete runner map key).run world).2 := by
  have looked : Leaves reads reader world _ := leaves_observe (removing map key) world
  rw [liveMapDelete_eq, run_bind]
  rcases ran : (observe (removing map key)).run world with ⟨fault | _, middle⟩ <;>
    rw [ran] at looked <;> dsimp only
  · exact looked
  · have busy := looked.toKept.idle.trans busy
    refine composable_leaves.trans looked (leaves_batch busy ?_)
    have same : middle = world.having (world.memory.withoutEntry map key) := by
      rw [run_observe] at ran
      rcases done : (removing map key).run (world.memory.seeing world.outlook) with
        ⟨fault | _, later⟩ <;> rw [done] at ran <;> cases ran
      rw [eq_withoutEntry done]
      rfl
    obtain ⟨deps, keysDep⟩ := Memory.liveMapAt_droppingFace
      { world.memory with
        maps := world.memory.maps.setIfInBounds (world.memory.rawMap map)
          ((world.memory.mapAt (world.memory.rawMap map)).erase key) } map key
    subst same
    have keys : (world.memory.withoutEntry map key).keysUnread reads map := by
      unfold Memory.keysUnread
      exact keysDep.symm ▸ spares.1
    have unread : (world.memory.withoutEntry map key).keyUnread reads map key := by
      unfold Memory.keyUnread
      exact deps.symm ▸ spares.2
    exact leaves_triggerBoth keys unread below rfl

end Act

/-! ## The whole of a write -/

namespace Write

/-- A write of an entry, or its removal, changes nothing that was read. -/
inductive Spares (reads : List DepId) (memory : Memory) : Write → Prop where
  | entry {map : LiveMapId} {key value : Value}
      (spares : memory.WriteSpares reads map key (memory.toRaw value)) :
      Spares reads memory (.entry map key value)
  | removal {map : LiveMapId} {key : Value} (spares : memory.RemovalSpares reads map key) :
      Spares reads memory (.removal map key)

theorem Spares.leaves {write : Write} (spares : write.Spares reads world.memory)
    (below : ∀ dep ∈ reads, dep < world.memory.depCount) (busy : world.reactor.idle = false) :
    Leaves reads reader world ((write.perform runner).run world).2 := by
  cases spares with
  | entry spares => exact Act.leaves_liveMapSet spares below busy
  | removal spares => exact Act.leaves_liveMapDelete spares below busy

theorem Spares.ends {memory : Memory} {write : Write} (spares : write.Spares reads memory) :
    Act.Ends runner (write.perform runner) := by
  cases spares with
  | entry => exact Act.ends_liveMapSet _ _ _
  | removal => exact Act.ends_liveMapDelete _ _

/-- What all writes have, this one has. -/
theorem respects {P : (α : Type) → Act α → Prop} (respected : RespectedByWrites runner P)
    (write : Write) : P _ (write.perform runner) := by
  cases write with
  | content cell value => exact respected.refSet cell value
  | entry map key value => exact respected.liveMapSet map key value
  | removal map key => exact respected.liveMapDelete map key
  | merging map source => exact respected.liveMapUpdate map source
  | item list index value => exact respected.liveListSet list index value
  | itemRemoval list index => exact respected.liveListDelete list index
  | insertion list index value => exact respected.liveListInsert list index value
  | extension list source => exact respected.liveListExtend list source
  | slice list start stop source => exact respected.liveListSetSlice list start stop source
  | sliceRemoval list start stop => exact respected.liveListDeleteSlice list start stop

end Write

/-- Where a write is about to work the queues off. -/
def World.written (runner : Runner) (write : Write) (world : World) : World :=
  ((write.perform runner).run (world.withReactor .deeper)).2.withReactor .shallower

end ReactiveSchema
