import ReactiveSchema.Proofs.Observe.Paths

/-!
# Writing an entry through a live map

Such a write changes one entry of the plain map behind and drops the face that
was kept for its key.  Links that do not lead over that entry stay, and those
that end there lead to what was written.  A link that leads further is cut: the
next one who takes the way meets new faces from there on.
-/

namespace ReactiveSchema

namespace Memory

variable {memory : Memory} {id face : LiveMapId} {live own : LiveMap} {key written : Value}

/-- Memory without the face that a live map keeps for a key. -/
def droppingFace (memory : Memory) (id : LiveMapId) (key : Value) : Memory :=
  { memory with
    liveMaps := memory.liveMaps.modify id fun live =>
      { live with children := live.children.erase key } }

/-- Memory with an entry written through a live map. -/
def overwritten (memory : Memory) (id : LiveMapId) (key written : Value) : Memory :=
  (memory.writeEntry (memory.rawMap id) key written).droppingFace id key

theorem liveMaps_overwritten :
    (memory.overwritten id key written).liveMaps[face]? =
      if id = face then
        memory.liveMaps[face]?.map fun live => { live with children := live.children.erase key }
      else memory.liveMaps[face]? :=
  Array.getElem?_modify

theorem liveMaps_overwritten_of_found (id : LiveMapId) (key written : Value)
    (found : memory.liveMaps[face]? = some live) :
    ∃ later, (memory.overwritten id key written).liveMaps[face]? = some later ∧
      later.raw = live.raw ∧ later.keysDep = live.keysDep ∧ later.deps = live.deps ∧
        (id ≠ face → later.children = live.children) ∧
          (id = face → later.children = live.children.erase key) := by
  rw [liveMaps_overwritten, found]
  split
  case isTrue same => exact ⟨_, rfl, rfl, rfl, rfl, fun apart => absurd same apart, fun _ => rfl⟩
  case isFalse apart => exact ⟨_, rfl, rfl, rfl, rfl, fun _ => rfl, fun same => absurd same apart⟩

theorem Fronts.overwritten {given plain : Value} (id : LiveMapId) (key written : Value)
    (shows : memory.Fronts given plain) :
    (memory.overwritten id key written).Fronts given plain := by
  unfold Fronts at *
  split at shows
  case h_1 other raw =>
    obtain ⟨live, found, same⟩ := shows
    obtain ⟨later, known, raw, -⟩ := liveMaps_overwritten_of_found id key written found
    exact ⟨later, known, raw.trans same⟩
  case h_2 => exact shows
  case h_3 => exact shows

section Aside

variable {step : String} {wrote : String}

theorem inside_of_entry {raw : MapId} {value : Value}
    (entry : (memory.mapAt raw).find? (.str step) = some value) : raw < memory.maps.size := by
  refine Nat.lt_of_not_le fun outside => ?_
  unfold mapAt at entry
  rw [Array.getElem?_eq_none outside] at entry
  cases entry

theorem mapAt_overwritten (found : memory.liveMaps[id]? = some own) (raw : MapId) :
    (memory.overwritten id key written).mapAt raw =
      (memory.writeEntry own.raw key written).mapAt raw := by
  unfold Memory.overwritten
  rw [rawMap_of_found found]
  rfl

theorem mapAt_overwritten_self (found : memory.liveMaps[id]? = some own)
    (inside : own.raw < memory.maps.size) :
    ((memory.overwritten id (.str wrote) written).mapAt own.raw).find? (.str wrote) =
      some written := by
  rw [mapAt_overwritten found, mapAt_writeEntry_self inside]
  exact Entries.find?_insert_self _ _

/-- Entries of other maps and of other keys stay. -/
theorem mapAt_overwritten_of_aside {raw : MapId} {value : Value}
    (found : memory.liveMaps[id]? = some own)
    (entry : (memory.mapAt raw).find? (.str step) = some value)
    (aside : raw = own.raw → step ≠ wrote) :
    ((memory.overwritten id (.str wrote) written).mapAt raw).find? (.str step) = some value := by
  rw [mapAt_overwritten found]
  by_cases here : own.raw = raw
  · subst here
    have inside := inside_of_entry entry
    have apart : Value.str wrote ≠ .str step := fun same => aside rfl (Value.str.inj same).symm
    rw [mapAt_writeEntry_self inside, Entries.find?_insert_of_ne (Value.isOwnKey_str step) _ _ apart]
    exact entry
  · rw [mapAt_writeEntry_of_ne _ _ here]
    exact entry

theorem KeepsFace.overwritten {child : Value} (found : memory.liveMaps[id]? = some own)
    (found' : memory.liveMaps[face]? = some live) (kept : memory.KeepsFace face (.str step) child)
    (aside : live.raw = own.raw → step ≠ wrote) :
    (memory.overwritten id (.str wrote) written).KeepsFace face (.str step) child := by
  obtain ⟨live', value, known, child', entry, shows⟩ := kept
  cases found'.symm.trans known
  obtain ⟨later, known', raw, -, -, other, this⟩ :=
    liveMaps_overwritten_of_found id (.str wrote) written found'
  refine ⟨later, value, known', ?_, ?_, shows.overwritten _ _ _⟩
  · by_cases same : id = face
    · subst same
      cases found.symm.trans found'
      have apart : Value.str wrote ≠ .str step := fun same => aside rfl (Value.str.inj same).symm
      rw [this rfl, Entries.find?_erase_of_ne (Value.isOwnKey_str step) _ apart]
      exact child'
    · rw [other same]
      exact child'
  · rw [raw]
    exact mapAt_overwritten_of_aside found entry aside

end Aside

namespace Linked

variable {watched : DepId → Prop} {value : Value} {keys : List String} {wrote : String}

/-- Links that do not lead over the entry that is written stay. -/
theorem overwritten_aside (linked : memory.Linked watched value face keys)
    (found : memory.liveMaps[id]? = some own) (start : memory.liveMaps[face]? = some live)
    (aside : ∀ place step rest, keys = place ++ step :: rest →
      memory.valueAt (.map live.raw) place = some (.map own.raw) → step ≠ wrote) :
    (memory.overwritten id (.str wrote) written).Linked watched value face keys := by
  induction linked generalizing live with
  | leaf known tracked watching entry =>
      cases start.symm.trans known
      obtain ⟨later, known', raw, -, deps, -⟩ :=
        liveMaps_overwritten_of_found id (.str wrote) written start
      refine .leaf known' (deps ▸ tracked) watching ?_
      rw [raw]
      exact mapAt_overwritten_of_aside found entry fun same =>
        aside [] _ _ rfl (by rw [valueAt_nil, same])
  | inner known tracked watching kept below ih =>
      cases start.symm.trans known
      obtain ⟨later, known', -, -, deps, -⟩ :=
        liveMaps_overwritten_of_found id (.str wrote) written start
      obtain ⟨next, shown, entry⟩ := raw_of_keepsFace start kept
      refine .inner known' (deps ▸ tracked) watching
        (kept.overwritten found start fun same =>
          aside [] _ _ rfl (by rw [valueAt_nil, same])) (ih shown ?_)
      intro place step rest split reached
      refine aside (_ :: place) step rest (by rw [split]; rfl) ?_
      exact valueAt_cons_eq_some.mpr ⟨_, _, rfl, entry, reached⟩

/-- Links that end at the entry that is written lead to what is written. -/
theorem overwritten_end {place : List String}
    (linked : memory.Linked watched value face (place ++ [wrote]))
    (found : memory.liveMaps[id]? = some own) (start : memory.liveMaps[face]? = some live)
    (reached : memory.valueAt (.map live.raw) place = some (.map own.raw))
    (once : ∀ other, memory.valueAt (.map live.raw) other = some (.map own.raw) → other = place) :
    (memory.overwritten id (.str wrote) written).Linked watched written face (place ++ [wrote]) := by
  induction place generalizing face live with
  | nil =>
      have same : live.raw = own.raw := by
        simpa using Option.some.inj (valueAt_nil.symm.trans reached)
      cases linked with
      | leaf known tracked watching entry =>
          cases start.symm.trans known
          obtain ⟨later, known', raw, -, deps, -⟩ :=
        liveMaps_overwritten_of_found id (.str wrote) written start
          refine .leaf known' (deps ▸ tracked) watching ?_
          rw [raw, same]
          exact mapAt_overwritten_self found (inside_of_entry (same ▸ entry))
  | cons step place ih =>
      obtain ⟨live', dep, child, known, tracked, watching, kept, below⟩ := linked.first
      cases start.symm.trans known
      obtain ⟨later, known', -, -, deps, -⟩ :=
        liveMaps_overwritten_of_found id (.str wrote) written start
      obtain ⟨next, shown, entry⟩ := raw_of_keepsFace start kept
      have apart : live.raw ≠ own.raw := by
        intro same
        cases once [] (by rw [valueAt_nil, same])
      have kept : (memory.overwritten id (.str wrote) written).KeepsFace face (.str step)
          (.liveMap child) := kept.overwritten found start fun same => absurd same apart
      obtain ⟨_, _, same, entry', further⟩ := valueAt_cons_eq_some.mp reached
      cases same
      cases entry.symm.trans entry'
      have linked := ih below shown further fun other there =>
        (List.cons.inj (once (step :: other)
          (valueAt_cons_eq_some.mpr ⟨_, _, rfl, entry, there⟩))).2
      exact .under known' (deps ▸ tracked) watching kept linked

end Linked

end Memory

end ReactiveSchema
