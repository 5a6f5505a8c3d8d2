import ReactiveSchema.Proofs.Observe.Faces

/-!
# Plain data in the shape of a tree

From a plain value, paths of text keys lead through plain maps.  Data has the
shape of a tree when no map is reached by two paths and nothing that is reached
is a live face.  New containers leave such data as it is, and a write of fresh
data to one of its maps keeps the shape.
-/

namespace ReactiveSchema

namespace Memory

variable {memory before after : Memory} {first middle last : Nat} {root value : Value}

/-- The value at a path of text keys, from a plain value on. -/
def valueAt (memory : Memory) : Value → List String → Option Value
  | value, [] => some value
  | .map raw, key :: rest =>
      match (memory.mapAt raw).find? (.str key) with
      | some value => memory.valueAt value rest
      | none => none
  | _, _ :: _ => none

theorem valueAt_nil : memory.valueAt value [] = some value := by
  unfold valueAt
  rfl

theorem valueAt_cons_eq_some {key : String} {rest : List String} {found : Value} :
    memory.valueAt value (key :: rest) = some found ↔
      ∃ raw next, value = .map raw ∧ (memory.mapAt raw).find? (.str key) = some next ∧
        memory.valueAt next rest = some found := by
  constructor
  · intro known
    cases value
    case map raw =>
      unfold valueAt at known
      split at known
      case h_1 next entry => exact ⟨raw, next, rfl, entry, known⟩
      case h_2 => cases known
    all_goals cases known
  · rintro ⟨raw, next, rfl, entry, known⟩
    unfold valueAt
    rw [entry]
    exact known

theorem valueAt_append {path rest : List String} {found : Value} :
    memory.valueAt value (path ++ rest) = some found ↔
      ∃ between, memory.valueAt value path = some between ∧
        memory.valueAt between rest = some found := by
  induction path generalizing value with
  | nil =>
      rw [List.nil_append]
      exact ⟨fun known => ⟨value, valueAt_nil, known⟩, fun ⟨_, here, known⟩ =>
        Option.some.inj (valueAt_nil.symm.trans here) ▸ known⟩
  | cons key path ih =>
      rw [List.cons_append, valueAt_cons_eq_some]
      constructor
      · rintro ⟨raw, next, rfl, entry, known⟩
        obtain ⟨between, here, there⟩ := ih.mp known
        exact ⟨between, valueAt_cons_eq_some.mpr ⟨raw, next, rfl, entry, here⟩, there⟩
      · rintro ⟨between, here, there⟩
        obtain ⟨raw, next, same, entry, known⟩ := valueAt_cons_eq_some.mp here
        exact ⟨raw, next, same, entry, ih.mpr ⟨between, known, there⟩⟩

/-- What was reached stays where it is when containers are added. -/
theorem valueAt_of_begins (maps : Begins before.maps after.maps) {path : List String}
    {found : Value} (known : before.valueAt value path = some found) :
    after.valueAt value path = some found := by
  induction path generalizing value with
  | nil => exact known
  | cons key rest ih =>
      obtain ⟨raw, next, rfl, entry, further⟩ := valueAt_cons_eq_some.mp known
      exact valueAt_cons_eq_some.mpr
        ⟨raw, next, rfl, mapAt_find?_of_begins maps entry, ih further⟩

/--
Data in the shape of a tree: each map that is reached is reached by one path
only and lies in a range of places, and nothing that is reached is live.
-/
structure Tree (memory : Memory) (first last : Nat) (root : Value) : Prop where
  within : last ≤ memory.maps.size
  place {path : List String} {raw : MapId} :
    memory.valueAt root path = some (.map raw) → first ≤ raw ∧ raw < last
  apart {path other : List String} {raw : MapId} :
    memory.valueAt root path = some (.map raw) →
      memory.valueAt root other = some (.map raw) → path = other
  plain {path : List String} {value : Value} :
    memory.valueAt root path = some value → value.isLive = false

/-- A value that is no map has nothing below it. -/
theorem tree_of_flat (within : last ≤ memory.maps.size) (flat : ∀ raw, root ≠ .map raw)
    (plain : root.isLive = false) : memory.Tree first last root := by
  have only {path : List String} {value : Value} (known : memory.valueAt root path = some value) :
      path = [] ∧ value = root := by
    cases path with
    | nil => exact ⟨rfl, (Option.some.inj (valueAt_nil.symm.trans known)).symm⟩
    | cons key rest =>
        obtain ⟨raw, _, same, -⟩ := valueAt_cons_eq_some.mp known
        exact absurd same (flat raw)
  constructor
  case within => exact within
  case place => exact fun known => absurd (only known).2.symm (flat _)
  case apart => exact fun known other => (only known).1.trans (only other).1.symm
  case plain =>
    intro path value known
    rw [(only known).2]
    exact plain

namespace Tree

theorem child {raw : MapId} {key : String} (tree : memory.Tree first last (.map raw))
    (entry : (memory.mapAt raw).find? (.str key) = some value) :
    memory.Tree first last value := by
  have below {path : List String} {found : Value} (known : memory.valueAt value path = some found) :
      memory.valueAt (.map raw) (key :: path) = some found :=
    valueAt_cons_eq_some.mpr ⟨raw, value, rfl, entry, known⟩
  constructor
  case within => exact tree.within
  case place => exact fun known => tree.place (below known)
  case apart => exact fun known other => (List.cons.inj (tree.apart (below known) (below other))).2
  case plain => exact fun known => tree.plain (below known)

/-- In a tree whose maps are all there, added containers change nothing. -/
theorem valueAt_eq (tree : before.Tree first last root) (maps : Begins before.maps after.maps)
    (path : List String) : after.valueAt root path = before.valueAt root path := by
  induction path generalizing root with
  | nil => rw [valueAt_nil, valueAt_nil]
  | cons key rest ih =>
      cases root
      case map raw =>
        have inside : raw < before.maps.size :=
          Nat.lt_of_lt_of_le (tree.place valueAt_nil).2 tree.within
        have same : after.mapAt raw = before.mapAt raw := by
          unfold mapAt
          rw [maps raw _ (Array.getElem?_eq_getElem inside), Array.getElem?_eq_getElem inside]
        unfold valueAt
        rw [same]
        split
        case h_1 next entry => exact ih (tree.child entry)
        case h_2 => rfl
      all_goals rfl

theorem of_begins (tree : before.Tree first last root) (maps : Begins before.maps after.maps) :
    after.Tree first last root where
  within := Nat.le_trans tree.within maps.size_le
  place known := tree.place ((tree.valueAt_eq maps _).symm.trans known)
  apart known other :=
    tree.apart ((tree.valueAt_eq maps _).symm.trans known) ((tree.valueAt_eq maps _).symm.trans other)
  plain known := tree.plain ((tree.valueAt_eq maps _).symm.trans known)

theorem widen {lower higher : Nat} (tree : memory.Tree first last root) (low : lower ≤ first)
    (high : last ≤ higher) (within : higher ≤ memory.maps.size) :
    memory.Tree lower higher root where
  within := within
  place known :=
    ⟨Nat.le_trans low (tree.place known).1, Nat.lt_of_lt_of_le (tree.place known).2 high⟩
  apart := tree.apart
  plain := tree.plain

end Tree

/-! ## Writing an entry -/

/-- Memory with the entry of a key of a plain map written. -/
def writeEntry (memory : Memory) (raw : MapId) (key value : Value) : Memory :=
  { memory with
    maps := memory.maps.setIfInBounds raw ((memory.mapAt raw).insert key value) }

theorem mapAt_writeEntry_self {raw : MapId} (inside : raw < memory.maps.size)
    (key value : Value) :
    (memory.writeEntry raw key value).mapAt raw = (memory.mapAt raw).insert key value := by
  unfold writeEntry
  rw [mapAt, Array.getElem?_setIfInBounds, if_pos rfl, if_pos inside]
  rfl

theorem mapAt_writeEntry_of_ne {raw other : MapId} (key value : Value) (apart : raw ≠ other) :
    (memory.writeEntry raw key value).mapAt other = memory.mapAt other := by
  unfold writeEntry mapAt
  dsimp only
  rw [Array.getElem?_setIfInBounds, if_neg apart]

/-- What does not reach a map does not see what is written to it. -/
theorem valueAt_writeEntry_of_unreached {raw : MapId} {start : Value} (key written : Value)
    (unreached : ∀ path, memory.valueAt start path ≠ some (.map raw)) (path : List String) :
    (memory.writeEntry raw key written).valueAt start path = memory.valueAt start path := by
  induction path generalizing start with
  | nil => rw [valueAt_nil, valueAt_nil]
  | cons step rest ih =>
      cases start
      case map other =>
        have apart : raw ≠ other := by
          rintro rfl
          exact unreached [] valueAt_nil
        unfold valueAt
        rw [mapAt_writeEntry_of_ne key written apart]
        split
        case h_1 next entry =>
          refine ih fun path known => unreached (step :: path) ?_
          exact valueAt_cons_eq_some.mpr ⟨other, next, rfl, entry, known⟩
        case h_2 => rfl
      all_goals rfl

/-- In a tree a write is seen along paths through the written key only. -/
theorem valueAt_writeEntry_of_aside (tree : memory.Tree first last root) {raw : MapId}
    {place : List String} {key : String} (written : Value)
    (found : memory.valueAt root place = some (.map raw)) {path : List String}
    (aside : ¬ place ++ [key] <+: path) :
    (memory.writeEntry raw (.str key) written).valueAt root path = memory.valueAt root path := by
  induction place generalizing root path with
  | nil =>
      cases Option.some.inj (valueAt_nil.symm.trans found)
      have inside : raw < memory.maps.size := Nat.lt_of_lt_of_le (tree.place found).2 tree.within
      cases path with
      | nil => rw [valueAt_nil, valueAt_nil]
      | cons step rest =>
          have apart : Value.str key ≠ .str step := by
            intro same
            cases same
            exact aside ⟨rest, rfl⟩
          unfold valueAt
          rw [mapAt_writeEntry_self inside,
            Entries.find?_insert_of_ne (Value.isOwnKey_str step) _ _ apart]
          split
          case h_1 next entry =>
            refine valueAt_writeEntry_of_unreached _ _ (fun path known => ?_) rest
            have around := valueAt_cons_eq_some.mpr ⟨raw, next, rfl, entry, known⟩
            cases tree.apart found around
          case h_2 => rfl
  | cons step place ih =>
      obtain ⟨outer, next, rfl, entry, further⟩ := valueAt_cons_eq_some.mp found
      have apart : raw ≠ outer := by
        rintro rfl
        cases tree.apart valueAt_nil found
      cases path with
      | nil => rw [valueAt_nil, valueAt_nil]
      | cons other rest =>
          unfold valueAt
          rw [mapAt_writeEntry_of_ne _ _ apart]
          split
          case h_1 between known =>
            by_cases same : other = step
            · subst same
              cases entry.symm.trans known
              refine ih (tree.child entry) further fun ⟨more, joined⟩ => aside ⟨more, ?_⟩
              rw [List.cons_append, List.cons_append, joined]
            · refine valueAt_writeEntry_of_unreached _ _ (fun path reached => ?_) rest
              have around := valueAt_cons_eq_some.mpr ⟨outer, between, rfl, known, reached⟩
              exact same (List.cons.inj (tree.apart around found)).1
          case h_2 => rfl

/-- Along paths through the written key, what was written is seen. -/
theorem valueAt_writeEntry_of_through (tree : memory.Tree first last root) {raw : MapId}
    {place : List String} {key : String} {written : Value}
    (found : memory.valueAt root place = some (.map raw))
    (unreached : ∀ path, memory.valueAt written path ≠ some (.map raw)) (rest : List String) :
    (memory.writeEntry raw (.str key) written).valueAt root (place ++ key :: rest) =
      memory.valueAt written rest := by
  have inside : raw < memory.maps.size := Nat.lt_of_lt_of_le (tree.place found).2 tree.within
  have still : (memory.writeEntry raw (.str key) written).valueAt root place = some (.map raw) := by
    rw [valueAt_writeEntry_of_aside tree written found]
    · exact found
    · rintro ⟨more, joined⟩
      simpa using congrArg List.length joined
  have entry : ((memory.writeEntry raw (.str key) written).mapAt raw).find? (.str key) =
      some written := by
    rw [mapAt_writeEntry_self inside]
    exact Entries.find?_insert_self _ _
  have below := valueAt_writeEntry_of_unreached (.str key) written unreached rest
  cases known : memory.valueAt written rest with
  | some value =>
      rw [known] at below
      exact valueAt_append.mpr
        ⟨_, still, valueAt_cons_eq_some.mpr ⟨raw, written, rfl, entry, below⟩⟩
  | none =>
      rw [known] at below
      refine Option.eq_none_iff_forall_ne_some.mpr fun value reached => ?_
      obtain ⟨between, here, there⟩ := valueAt_append.mp reached
      cases here.symm.trans still
      obtain ⟨_, next, same, entry', further⟩ := valueAt_cons_eq_some.mp there
      cases same
      cases entry.symm.trans entry'
      rw [below] at further
      cases further

/-- A tree into which a tree of other maps is written is a tree. -/
theorem tree_writeEntry (tree : memory.Tree first middle root) {raw : MapId}
    {place : List String} {key : String} {written : Value}
    (found : memory.valueAt root place = some (.map raw))
    (fresh : memory.Tree middle last written) (ordered : middle ≤ last) :
    (memory.writeEntry raw (.str key) written).Tree first last root := by
  have inside := tree.place found
  have unreached (path : List String) : memory.valueAt written path ≠ some (.map raw) :=
    fun known => Nat.lt_irrefl raw (Nat.lt_of_lt_of_le inside.2 (fresh.place known).1)
  -- what is reached after the write is part of what was written, or was reached before
  have reached {path : List String} {value : Value}
      (known : (memory.writeEntry raw (.str key) written).valueAt root path = some value) :
      (∃ more, path = place ++ key :: more ∧ memory.valueAt written more = some value) ∨
        (¬ place ++ [key] <+: path ∧ memory.valueAt root path = some value) := by
    by_cases through : place ++ [key] <+: path
    · obtain ⟨more, joined⟩ := through
      have split : path = place ++ key :: more := by simp [← joined]
      rw [split, valueAt_writeEntry_of_through tree found unreached] at known
      exact .inl ⟨more, split, known⟩
    · rw [valueAt_writeEntry_of_aside tree written found through] at known
      exact .inr ⟨through, known⟩
  constructor
  case within => simpa [writeEntry] using fresh.within
  case place =>
    intro path other known
    rcases reached known with ⟨more, -, below⟩ | ⟨-, before⟩
    · have bounds := fresh.place below
      exact ⟨Nat.le_trans (Nat.le_trans inside.1 (Nat.le_of_lt inside.2)) bounds.1, bounds.2⟩
    · have bounds := tree.place before
      exact ⟨bounds.1, Nat.lt_of_lt_of_le bounds.2 ordered⟩
  case apart =>
    intro path other common known known'
    rcases reached known with ⟨more, rfl, below⟩ | ⟨-, before⟩ <;>
      rcases reached known' with ⟨more', rfl, below'⟩ | ⟨-, before'⟩
    · rw [fresh.apart below below']
    · exact absurd (Nat.lt_of_lt_of_le (tree.place before').2 (fresh.place below).1)
        (Nat.lt_irrefl _)
    · exact absurd (Nat.lt_of_lt_of_le (tree.place before).2 (fresh.place below').1)
        (Nat.lt_irrefl _)
    · exact tree.apart before before'
  case plain =>
    intro path value known
    rcases reached known with ⟨more, -, below⟩ | ⟨-, before⟩
    · exact fresh.plain below
    · exact tree.plain before

/-- Writing what is there already changes nothing. -/
theorem writeEntry_of_found {raw : MapId} {key : Value}
    (entry : (memory.mapAt raw).find? key = some value) :
    memory.writeEntry raw key value = memory := by
  have same : memory.maps.setIfInBounds raw (memory.mapAt raw) = memory.maps := by
    apply Array.ext_getElem?
    intro index
    rw [Array.getElem?_setIfInBounds]
    split
    case isTrue here =>
      subst here
      unfold mapAt
      split
      case isTrue inside => rw [Array.getElem?_eq_getElem inside, Option.getD_some]
      case isFalse outside => exact (Array.getElem?_eq_none (Nat.le_of_not_lt outside)).symm
    case isFalse => rfl
  unfold writeEntry
  rw [Entries.insert_of_find? entry, same]

/-! ## Trees that are built -/

/-- Values with trees of their own, one after another in a range of places. -/
inductive Forest (memory : Memory) : Nat → Nat → List (Value × Value) → Prop where
  | nil {first last : Nat} (ordered : first ≤ last) (within : last ≤ memory.maps.size) :
      Forest memory first last []
  | cons {first middle last : Nat} {key value : Value} {rest : List (Value × Value)}
      (ordered : first ≤ middle) (tree : memory.Tree first middle value)
      (trees : Forest memory middle last rest) :
      Forest memory first last ((key, value) :: rest)

namespace Forest

variable {entries : List (Value × Value)}

theorem ordered (forest : memory.Forest first last entries) : first ≤ last := by
  induction forest with
  | nil ordered => exact ordered
  | cons ordered tree trees ih => exact Nat.le_trans ordered ih

theorem within (forest : memory.Forest first last entries) : last ≤ memory.maps.size := by
  induction forest with
  | nil _ within => exact within
  | cons ordered tree trees ih => exact ih

theorem of_begins (forest : before.Forest first last entries)
    (maps : Begins before.maps after.maps) : after.Forest first last entries := by
  induction forest with
  | nil ordered within => exact .nil ordered (Nat.le_trans within maps.size_le)
  | cons ordered tree trees ih => exact .cons ordered (tree.of_begins maps) ih

/-- Each value of a forest has its tree within the range of the forest. -/
theorem tree (forest : memory.Forest first last entries) {key value : Value}
    (known : (key, value) ∈ entries) : memory.Tree first last value := by
  induction forest with
  | nil => cases known
  | cons ordered tree trees ih =>
      rcases List.mem_cons.mp known with here | there
      · cases here
        exact tree.widen (Nat.le_refl _) trees.ordered trees.within
      · exact (ih there).widen ordered (Nat.le_refl _) trees.within

/-- No map is reached from two entries of a forest, or by two paths from one. -/
theorem apart (forest : memory.Forest first last entries) {key key' value value' : Value}
    {path path' : List String} {raw : MapId}
    (known : (key, value) ∈ entries) (known' : (key', value') ∈ entries)
    (reached : memory.valueAt value path = some (.map raw))
    (reached' : memory.valueAt value' path' = some (.map raw)) : key = key' ∧ path = path' := by
  induction forest with
  | nil => cases known
  | cons ordered tree trees ih =>
      rcases List.mem_cons.mp known with here | there <;>
        rcases List.mem_cons.mp known' with here' | there'
      · cases here
        cases here'
        exact ⟨rfl, tree.apart reached reached'⟩
      · cases here
        exact absurd (Nat.lt_of_lt_of_le (tree.place reached).2
          ((trees.tree there').place reached').1) (Nat.lt_irrefl _)
      · cases here'
        exact absurd (Nat.lt_of_lt_of_le (tree.place reached').2
          ((trees.tree there).place reached).1) (Nat.lt_irrefl _)
      · exact ih there there'

end Forest

/-- A new map of a forest is a tree. -/
theorem tree_of_forest {entries : List (Value × Value)}
    (forest : memory.Forest first memory.maps.size entries) (grown : Memory)
    (maps : grown.maps = memory.maps.push (.ofList entries)) :
    grown.Tree first grown.maps.size (.map memory.maps.size) := by
  have begins : Begins memory.maps grown.maps := maps ▸ begins_push _ _
  have size : grown.maps.size = memory.maps.size + 1 := by rw [maps, Array.size_push]
  have later := forest.of_begins begins
  have entriesAt : grown.mapAt memory.maps.size = .ofList entries := by
    unfold mapAt
    rw [maps, Array.getElem?_push_size, Option.getD_some]
  -- below the new map, everything belongs to one of its entries
  have below {key : String} {rest : List String} {found : Value}
      (known : grown.valueAt (.map memory.maps.size) (key :: rest) = some found) :
      ∃ value, (.str key, value) ∈ entries ∧ grown.valueAt value rest = some found := by
    obtain ⟨_, value, same, entry, further⟩ := valueAt_cons_eq_some.mp known
    cases same
    rw [entriesAt] at entry
    exact ⟨value, Entries.mem_of_find?_ofList (Value.isOwnKey_str key) entry, further⟩
  constructor
  case within => exact Nat.le_refl _
  case place =>
    intro path raw known
    cases path with
    | nil =>
        cases Option.some.inj (valueAt_nil.symm.trans known)
        exact ⟨forest.ordered, by rw [size]; exact Nat.lt_succ_self _⟩
    | cons key rest =>
        obtain ⟨value, entry, further⟩ := below known
        have bounds := (later.tree entry).place further
        exact ⟨bounds.1, by rw [size]; exact Nat.lt_succ_of_lt bounds.2⟩
  case apart =>
    intro path other raw known known'
    cases path with
    | nil =>
        cases Option.some.inj (valueAt_nil.symm.trans known)
        cases other with
        | nil => rfl
        | cons key rest =>
            obtain ⟨value, entry, further⟩ := below known'
            exact absurd ((later.tree entry).place further).2 (Nat.lt_irrefl _)
    | cons key rest =>
        obtain ⟨value, entry, further⟩ := below known
        cases other with
        | nil =>
            cases Option.some.inj (valueAt_nil.symm.trans known')
            exact absurd ((later.tree entry).place further).2 (Nat.lt_irrefl _)
        | cons key' rest' =>
            obtain ⟨value', entry', further'⟩ := below known'
            obtain ⟨same, same'⟩ := later.apart entry entry' further further'
            rw [Value.str.inj same, same']
  case plain =>
    intro path value known
    cases path with
    | nil =>
        cases Option.some.inj (valueAt_nil.symm.trans known)
        rfl
    | cons key rest =>
        obtain ⟨between, entry, further⟩ := below known
        exact (later.tree entry).plain further

end Memory

/-- Data as it is exchanged: nothing, truth values, numbers, texts, and lists and maps of them. -/
def Datum.isJson : Datum → Bool
  | .none => true
  | .bool _ => true
  | .int _ => true
  | .float _ => true
  | .str _ => true
  | .list items => allJson items
  | .map entries => entriesJson entries
  | _ => false
where
  /-- Are all items such data? -/
  allJson : List Datum → Bool
    | [] => true
    | item :: rest => item.isJson && allJson rest
  /-- Are all keys texts, and all values such data? -/
  entriesJson : List (Datum × Datum) → Bool
    | [] => true
    | (.str _, item) :: rest => item.isJson && entriesJson rest
    | _ :: _ => false

section Building

open Memory

variable {memory after : Memory}

theorem maps_build {datum : Datum} {result : Except Fault Value}
    (ran : datum.build.run memory = (result, after)) : Begins memory.maps after.maps := by
  have grown := (looks_grows.build datum memory).maps
  rw [ran] at grown
  exact grown

theorem maps_buildEntries {entries : List (Datum × Datum)}
    {result : Except Fault (List (Value × Value))}
    (ran : (Datum.build.buildEntries entries).run memory = (result, after)) :
    Begins memory.maps after.maps := by
  have grown := (looks_grows.buildEntries entries memory).maps
  rw [ran] at grown
  exact grown

mutual

/-- Data that is built is a tree of new maps. -/
theorem tree_build : ∀ {datum : Datum} {memory after : Memory} {value : Value},
    datum.isJson = true → datum.build.run memory = (.ok value, after) →
      after.Tree memory.maps.size after.maps.size value
  | .none, _, _, _, _, ran | .bool _, _, _, _, _, ran | .int _, _, _, _, _, ran
  | .str _, _, _, _, _, ran => by
      cases ran
      exact tree_of_flat (Nat.le_refl _) (fun _ same => nomatch same) rfl
  | .float x, _, _, _, _, ran => by
      unfold Datum.build Observe.ofFloat at ran
      split at ran
      · cases ran
        exact tree_of_flat (Nat.le_refl _) (fun _ same => nomatch same) rfl
      · cases ran
        exact tree_of_flat (Nat.le_refl _) (fun _ same => nomatch same) rfl
  | .list items, _, _, _, _, ran => by
      unfold Datum.build at ran
      obtain ⟨values, middle, _, made⟩ := run_bind_ok ran
      cases made
      exact tree_of_flat (Nat.le_refl _) (fun _ same => nomatch same) rfl
  | .map entries, _, _, _, json, ran => by
      unfold Datum.build at ran
      obtain ⟨pairs, middle, built, made⟩ := run_bind_ok ran
      cases made
      exact tree_of_forest (forest_buildEntries json built) _ rfl

theorem forest_buildEntries : ∀ {entries : List (Datum × Datum)} {memory after : Memory}
    {pairs : List (Value × Value)}, Datum.isJson.entriesJson entries = true →
      (Datum.build.buildEntries entries).run memory = (.ok pairs, after) →
        after.Forest memory.maps.size after.maps.size pairs
  | [], _, _, _, _, ran => by
      cases ran
      exact .nil (Nat.le_refl _) (Nat.le_refl _)
  | (.str key, item) :: rest, memory, _, _, json, ran => by
      have ⟨first, further⟩ := (Bool.and_eq_true _ _).mp json
      unfold Datum.build.buildEntries at ran
      obtain ⟨_, _, named, ran⟩ := run_bind_ok ran
      cases named
      obtain ⟨value, middle, made, ran⟩ := run_bind_ok ran
      obtain ⟨_, _, checked, ran⟩ := run_bind_ok ran
      cases checked
      obtain ⟨pairs, last, others, ran⟩ := run_bind_ok ran
      cases ran
      have tree := tree_build first made
      have forest := forest_buildEntries further others
      have begins := maps_buildEntries others
      exact .cons (maps_build made).size_le (tree.of_begins begins) forest

end

end Building

end ReactiveSchema
