import ReactiveSchema.Proofs.Observe.Paths
import ReactiveSchema.Proofs.Observe.Alike

/-!
# Tokens that nothing binds

Where the store has no bindings, a token takes its value from the data.  Who looks it up for the
first time reads tracked state that nobody could have read before.
-/

namespace ReactiveSchema

open Observe

namespace Memory

variable {before memory after : Memory} {id store face : LiveMapId} {live : LiveMap} {key : Value}
  {name : String} {value : Value}

/-- Memory has grown, and all that was read since is tracked since. -/
structure ReadsNew (before after : Memory) : Prop where
  grows : Grows before after
  reads {dep : DepId} : dep ∈ after.reads → before.depCount ≤ dep

theorem readsNew_self (unread : before.reads = []) : before.ReadsNew before where
  grows := .refl before
  reads read := by
    rw [unread] at read
    cases read

/-- Reading a key that nobody had read before. -/
theorem ReadsNew.noted (reads : before.ReadsNew memory) (key : Value)
    (found : before.liveMaps[id]? = some live) (untracked : live.deps.find? key = none) :
    before.ReadsNew ((memory.keyed id key).2.reading (memory.keyed id key).1) where
  grows := (reads.grows.trans (grows_keyed memory id key)).trans (grows_reading _ _)
  reads := by
    have new : before.depCount ≤ (memory.keyed id key).1 := by
      unfold keyed
      split
      case h_1 dep known =>
        rcases reads.grows.newDeps known with old | new
        · rw [liveMapAt, found, Option.getD_some, untracked] at old
          cases old
        · exact new
      case h_2 => exact reads.grows.depCount
    intro dep read
    rcases List.mem_cons.mp read with rfl | read
    · exact new
    · rw [keyed_reads] at read
      exact reads.reads read

/--
The store has no bindings, and the data has a scalar under a name.  No key of either was read.
-/
structure Offers (memory : Memory) (store face : LiveMapId) (name : String) (value : Value) :
    Prop where
  store : ∃ live, memory.liveMaps[store]? = some live ∧ live.deps = [] ∧
    memory.maps[live.raw]? = some []
  data : ∃ live entries, memory.liveMaps[face]? = some live ∧ live.deps = [] ∧
    memory.maps[live.raw]? = some entries ∧ entries.find? (.str name) = some value
  scalar : value.isScalar = true

theorem Offers.begins (offers : before.Offers store face name value)
    (liveMaps : Begins before.liveMaps after.liveMaps) (maps : Begins before.maps after.maps) :
    after.Offers store face name value := by
  obtain ⟨live, found, unread, empty⟩ := offers.store
  obtain ⟨data, entries, known, fresh, given, entry⟩ := offers.data
  exact ⟨⟨live, liveMaps _ _ found, unread, maps _ _ empty⟩,
    ⟨data, entries, liveMaps _ _ known, fresh, maps _ _ given, entry⟩, offers.scalar⟩

/-- What memory that has grown has for a live map that was there. -/
theorem ReadsNew.mapAt_rawMap {entries : ReactiveSchema.Entries Value}
    (reads : before.ReadsNew memory)
    (found : before.liveMaps[id]? = some live) (given : before.maps[live.raw]? = some entries) :
    memory.mapAt (memory.rawMap id) = entries := by
  obtain ⟨later, present, raw, -, -⟩ := reads.grows.liveMaps found
  rw [rawMap_of_found present, raw, Memory.mapAt, reads.grows.maps _ _ given]
  rfl

theorem ReadsNew.run_has {entries : ReactiveSchema.Entries Value}
    (reads : before.ReadsNew memory) (key : Value)
    (found : before.liveMaps[id]? = some live) (unread : live.deps = [])
    (given : before.maps[live.raw]? = some entries) (hashable : key.isHashable = true) :
    ∃ after, (liveMapHas id key).run memory = (.ok (entries.contains key), after) ∧
      before.ReadsNew after := by
  have noted := reads.noted key found (by rw [unread]; rfl)
  refine ⟨_, ?_, noted⟩
  unfold liveMapHas
  rw [run_bind_of_ok (run_keyDep hashable id memory), ← noted.mapAt_rawMap found given]
  rfl

/-- Reading a scalar. -/
theorem ReadsNew.run_get {entries : ReactiveSchema.Entries Value} (reads : before.ReadsNew memory)
    (found : before.liveMaps[id]? = some live) (unread : live.deps = [])
    (given : before.maps[live.raw]? = some entries) (hashable : key.isHashable = true)
    (entry : entries.find? key = some value) (scalar : value.isScalar = true) :
    ∃ after, (liveMapGet id key).run memory = (.ok value, after) ∧ before.ReadsNew after := by
  have noted := reads.noted key found (by rw [unread]; rfl)
  refine ⟨_, ?_, noted⟩
  rw [run_liveMapGet hashable]
  dsimp only
  rw [noted.mapAt_rawMap found given, entry]
  cases value <;> first | rfl | cases scalar

theorem ReadsNew.run_bindingsOf (reads : before.ReadsNew memory)
    (offers : before.Offers store face name value) (scope : ScopeId) :
    ∃ after, (bindingsOf store scope).run memory = (.ok none, after) ∧ before.ReadsNew after := by
  obtain ⟨live, found, unread, empty⟩ := offers.store
  obtain ⟨after, has, reads⟩ := reads.run_has (.scope scope) found unread empty rfl
  exact ⟨after, run_bind_of_ok has, reads⟩

theorem ReadsNew.run_chain (reads : before.ReadsNew memory)
    (offers : before.Offers store face name value) (scopes : ScopePath) (data : Value) :
    ∃ after, (chain store scopes data).run memory = (.ok [data], after) ∧
      before.ReadsNew after := by
  have go (places : List ScopeId) : ∃ after,
      (List.filterMapM.loop (bindingsOf store) places []).run memory = (.ok [], after) ∧
        before.ReadsNew after := by
    induction places generalizing memory with
    | nil => exact ⟨memory, rfl, reads⟩
    | cons scope rest ih =>
        obtain ⟨middle, ran, reads⟩ := reads.run_bindingsOf offers scope
        obtain ⟨after, ended, reads⟩ := ih reads
        exact ⟨after, (run_bind_of_ok ran).trans ended, reads⟩
  obtain ⟨after, ran, reads⟩ := go scopes.reverse
  exact ⟨after, run_bind_of_ok ran, reads⟩

/-- A token that nothing binds is found in the data. -/
theorem Offers.run_findInScopes (offers : memory.Offers store face name value)
    (unread : memory.reads = []) (scopes : ScopePath) :
    ∃ after, (findInScopes store scopes (.liveMap face) [name]).run memory = (.ok value, after) ∧
      memory.ReadsNew after := by
  obtain ⟨middle, ran, reads⟩ := (readsNew_self unread).run_chain offers scopes (.liveMap face)
  obtain ⟨live, entries, found, fresh, given, entry⟩ := offers.data
  obtain ⟨looking, has, reads⟩ := reads.run_has (.str name) found fresh given rfl
  obtain ⟨after, got, reads⟩ := reads.run_get found fresh given rfl entry offers.scalar
  rw [Entries.contains, entry] at has
  have followed : (follow (.liveMap face) [name]).run middle = (.ok (some value), after) := by
    have owned : (segment? (.liveMap face) name).run middle = (.ok (some value), after) :=
      (run_bind_of_ok has).trans (run_bind_of_ok got)
    refine (run_bind_of_ok owned).trans ?_
    cases value <;> rfl
  exact ⟨after, (run_bind_of_ok ran).trans (run_bind_of_ok followed), reads⟩

end Memory

end ReactiveSchema
