import ReactiveSchema.Proofs.Observe.Owning
import ReactiveSchema.Proofs.Observe.ScopeLooks

/-!
# Looking a path up

Among plain things, looking a path up never fails.  It answers with what is at the end of the
path in the first candidate in which every step is owned; what comes out of live containers is
handed out by live faces.
-/

namespace ReactiveSchema

open Memory

namespace Observe

variable {memory noted before after : Memory} {object given : Value} {segment : String}

/-! ## Single steps -/

/-- Looking a segment up gives what is held under it, if anything, as it is or live. -/
def Yields (memory : Memory) (object : Value) (segment : String) (live : Bool)
    (held : Option Value) : Prop :=
  ∃ found after, (segment? object segment).run memory = (.ok found, after) ∧
    Option.Rel (fun given value => after.HandsAt given ⟨value, live⟩) found held

/-- What is given as it is. -/
theorem yields_self {held : Option Value}
    (ran : (segment? object segment).run memory = (.ok held, after)) :
    Yields memory object segment false held := by
  refine ⟨held, after, ran, ?_⟩
  cases held with
  | none => exact .none
  | some value => exact .some rfl

/-! ### Mappings -/

theorem yields_liveMap {id : LiveMapId} {own : LiveMap}
    (found : memory.liveMaps[id]? = some own) (inside : own.raw < memory.maps.size)
    (segment : String) :
    Yields memory (.liveMap id) segment true ((memory.mapAt own.raw).find? (.str segment)) := by
  have hashable : (Value.str segment).isHashable = true := rfl
  have grown := (grows_keyed memory id (.str segment)).trans
    (grows_reading _ (memory.keyed id (.str segment)).1)
  have has : (liveMapHas id (.str segment)).run memory =
      (.ok ((memory.mapAt own.raw).contains (.str segment)),
        (memory.keyed id (.str segment)).2.reading (memory.keyed id (.str segment)).1) := by
    unfold liveMapHas
    rw [run_bind_of_ok (run_keyDep hashable id memory), ← mapAt_rawMap_of_grows found inside grown]
    rfl
  generalize (memory.keyed id (.str segment)).2.reading (memory.keyed id (.str segment)).1 = noted
    at grown has
  unfold Yields segment?
  dsimp only
  rw [run_bind_of_ok has, Entries.contains]
  cases entry : (memory.mapAt own.raw).find? (.str segment) with
  | none => exact ⟨none, noted, rfl, .none⟩
  | some value =>
      have grown := grown.trans ((grows_keyed noted id (.str segment)).trans
        (grows_reading _ (noted.keyed id (.str segment)).1))
      have got := run_liveMapGet hashable id noted
      dsimp only at got
      rw [mapAt_rawMap_of_grows found inside grown, entry] at got
      rw [Option.isSome_some, if_pos rfl, run_bind_of_ok got]
      exact ⟨some _, _, rfl, .some handOut_hands⟩

/-! ### Sequences -/

theorem run_ofSequence {items : List Value} {live : Bool}
    (length : (lengthOf object).run memory = (.ok items.length, noted))
    (each : ∀ {index : Int} {value : Value}, itemOf? items index = some value →
      ∃ given after, (getItem object (.int index)).run noted = (.ok given, after) ∧
        after.HandsAt given ⟨value, live⟩) (segment : String) :
    ∃ found after, (segment?.ofSequence object segment).run memory = (.ok found, after) ∧
      Option.Rel (fun given value => after.HandsAt given ⟨value, live⟩) found
        (spelled? items segment) := by
  unfold segment?.ofSequence spelled?
  cases spells : Number.readInt? segment.toList with
  | none => exact ⟨none, memory, rfl, .none⟩
  | some index =>
      rw [Option.bind_some]
      dsimp only
      rw [run_bind_of_ok length]
      split
      case isTrue within =>
        obtain ⟨value, item⟩ := Option.isSome_iff_exists.mp (isSome_itemOf?.mpr within)
        obtain ⟨given, after, ran, hands⟩ := each item
        rw [run_bind_of_ok ran, item]
        exact ⟨some given, after, rfl, .some hands⟩
      case isFalse outside =>
        have missing := Option.not_isSome_iff_eq_none.mp (mt isSome_itemOf?.mp outside)
        rw [missing]
        exact ⟨none, noted, rfl, .none⟩

theorem run_itemAt_item (what : String) {items : List Value} {index : Int} {value : Value}
    (item : itemOf? items index = some value) (memory : Memory) :
    (itemAt what items (.int index)).run memory = (.ok value, memory) := by
  unfold itemAt Value.index?
  dsimp only
  unfold itemOf? at item
  rw [item]
  rfl

theorem yields_tuple (memory : Memory) (items : List Value) (segment : String) :
    Yields memory (.tuple items) segment false (spelled? items segment) := by
  have length : (lengthOf (.tuple items)).run memory = (.ok items.length, memory) := rfl
  refine run_ofSequence length (fun {index value} item => ?_) segment
  exact ⟨value, memory, run_itemAt_item "tuple" item memory, rfl⟩

theorem yields_list (memory : Memory) (id : ListId) (segment : String) :
    Yields memory (.list id) segment false (spelled? (memory.listAt id) segment) := by
  have length : (lengthOf (.list id)).run memory = (.ok (memory.listAt id).length, memory) := rfl
  refine run_ofSequence length (fun {index value} item => ?_) segment
  exact ⟨value, memory, run_itemAt_item "list" item memory, rfl⟩

theorem run_liveListGetAt_item {id : LiveListId} {own : LiveList}
    (found : memory.liveLists[id]? = some own) (inside : own.raw < memory.lists.size)
    {index : Int} {value : Value} (item : itemOf? (memory.listAt own.raw) index = some value) :
    ∃ given after, (liveListGetAt id index).run memory = (.ok given, after) ∧
      after.Hands given value := by
  have counted := itemOf?_counted item
  rw [← listAt_rawList_of_grows found inside
    (grows_reading memory (memory.liveListAt id).dep)] at counted
  unfold itemOf? at counted
  unfold liveListGetAt trackList
  rw [run_bind, run_bind, run_get]
  dsimp only
  rw [run_track]
  dsimp only
  rw [run_bind, run_get]
  dsimp only
  rw [counted]
  dsimp only
  rw [run_wrapItem]
  exact ⟨_, _, rfl, handOutItem_hands⟩

theorem yields_liveList {id : LiveListId} {own : LiveList}
    (found : memory.liveLists[id]? = some own) (inside : own.raw < memory.lists.size)
    (segment : String) :
    Yields memory (.liveList id) segment true (spelled? (memory.listAt own.raw) segment) := by
  have grown := grows_reading memory (memory.liveListAt id).dep
  have same := listAt_rawList_of_grows found inside grown
  have length : (lengthOf (.liveList id)).run memory =
      (.ok (memory.listAt own.raw).length, memory.reading (memory.liveListAt id).dep) := by
    rw [← same]
    rfl
  refine run_ofSequence length (fun {index value} item => ?_) segment
  obtain ⟨later, known, raw, -⟩ := grown.liveLists found
  rw [← same, rawList_of_found known] at item
  have inside := Nat.lt_of_lt_of_le (raw ▸ inside) grown.lists.size_le
  exact run_liveListGetAt_item known inside item

/-! ### Objects -/

theorem run_attribute? (grown : Grows before memory) (plain : before.isPlain object = true)
    (name : String) :
    ∃ after, (attribute? object name).run memory =
      (.ok (before.attributeOf? object name), after) := by
  cases object with
  | object id =>
      have inside : id < before.objects.size := of_decide_eq_true plain
      refine ⟨memory, ?_⟩
      change (Except.ok ((memory.objectAt id).lookup name), memory) = _
      rw [objectAt_of_begins grown.objects inside]
      rfl
  | ref id =>
      have inside : id < before.refs.size := of_decide_eq_true plain
      have cell := Array.getElem?_eq_getElem inside
      have got : (refGet id).run memory =
          (.ok (before.refAt id), memory.reading before.refs[id].dep) := by
        unfold refGet refAt
        rw [run_bind, run_get]
        dsimp only
        rw [grown.refs _ _ cell, cell]
        rfl
      by_cases value : name = "value"
      · subst value
        exact ⟨_, run_bind_of_ok got⟩
      · refine ⟨memory, ?_⟩
        by_cases peek : name = "peek"
        · subst peek
          rfl
        · simp only [attribute?, refAttribute?, attributeOf?]
          rfl
  | text content =>
      unfold attribute? attributeOf?
      dsimp only
      split <;> exact ⟨memory, rfl⟩
  | scope id =>
      refine ⟨memory, ?_⟩
      by_cases label : name = "label"
      · subst label
        rfl
      · by_cases serial : name = "serial"
        · subst serial
          rfl
        · simp only [attribute?, attributeOf?]
          rfl
  | node id => cases plain
  | handle kind id => cases plain
  | _ => exact ⟨memory, rfl⟩

theorem yields_object (grown : Grows before memory) (plain : before.isPlain object = true)
    (asked : segment? object segment =
      if segment.toList.head? == some '_' then pure none else attribute? object segment) :
    Yields memory object segment false
      (if segment.toList.head? == some '_' then none else before.attributeOf? object segment) := by
  split
  case isTrue hidden =>
    rw [if_pos hidden] at asked
    exact yields_self (by rw [asked]; rfl)
  case isFalse shown =>
    rw [if_neg shown] at asked
    obtain ⟨after, ran⟩ := run_attribute? grown plain segment
    exact yields_self (asked ▸ ran)

/-! ### Whatever is owned -/

theorem yields_owned_map (grown : Grows before memory) {id : MapId} {live : Bool}
    (hands : memory.HandsAt given ⟨.map id, live⟩) (inside : id < before.maps.size)
    (segment : String) :
    Yields memory given segment live ((before.mapAt id).find? (.str segment)) := by
  rw [← mapAt_of_begins grown.maps inside]
  rcases hands.of_container rfl with ⟨rfl, rfl⟩ | ⟨rfl, shows⟩
  · exact yields_self rfl
  · cases given with
    | liveMap face =>
        obtain ⟨own, found, rfl⟩ := shows
        exact yields_liveMap found (Nat.lt_of_lt_of_le inside grown.maps.size_le) segment
    | _ => exact shows.elim

theorem yields_owned_list (grown : Grows before memory) {id : ListId} {live : Bool}
    (hands : memory.HandsAt given ⟨.list id, live⟩) (inside : id < before.lists.size)
    (segment : String) :
    Yields memory given segment live (spelled? (before.listAt id) segment) := by
  rw [← listAt_of_begins grown.lists inside]
  rcases hands.of_container rfl with ⟨rfl, rfl⟩ | ⟨rfl, shows⟩
  · exact yields_list memory id segment
  · cases given with
    | liveList face =>
        obtain ⟨own, found, rfl⟩ := shows
        exact yields_liveList found (Nat.lt_of_lt_of_le inside grown.lists.size_le) segment
    | _ => exact shows.elim

theorem yields_owned_liveMap (grown : Grows before memory) {id : LiveMapId}
    (plain : before.isPlain (.liveMap id) = true) (segment : String) :
    Yields memory (.liveMap id) segment true
      ((before.mapAt (before.rawMap id)).find? (.str segment)) := by
  obtain ⟨own, found, within⟩ := (Option.any_eq_true _ _).mp plain
  have inside : own.raw < before.maps.size := of_decide_eq_true within
  obtain ⟨later, known, raw, -⟩ := grown.liveMaps found
  rw [rawMap_of_found found, ← mapAt_of_begins grown.maps inside, ← raw]
  exact yields_liveMap known (raw ▸ Nat.lt_of_lt_of_le inside grown.maps.size_le) segment

theorem yields_owned_liveList (grown : Grows before memory) {id : LiveListId}
    (plain : before.isPlain (.liveList id) = true) (segment : String) :
    Yields memory (.liveList id) segment true
      (spelled? (before.listAt (before.rawList id)) segment) := by
  obtain ⟨own, found, within⟩ := (Option.any_eq_true _ _).mp plain
  have inside : own.raw < before.lists.size := of_decide_eq_true within
  obtain ⟨later, known, raw, -⟩ := grown.liveLists found
  rw [rawList_of_found found, ← listAt_of_begins grown.lists inside, ← raw]
  exact yields_liveList known (raw ▸ Nat.lt_of_lt_of_le inside grown.lists.size_le) segment

/-- What is handed out at a stop yields what its owner holds, however memory has grown. -/
theorem yields_owned (grown : Grows before memory) {stop : Stop}
    (hands : memory.HandsAt given stop) (plain : before.isPlain stop.value = true)
    (segment : String) :
    Yields memory given segment stop.wraps (before.owned? stop.value segment) := by
  obtain ⟨value, live⟩ := stop
  -- what is neither a container nor live is handed out as it is, and so is all that it holds
  have flat (same : given = value) (single : value.isLive = false)
      (flat : value.isPlainContainer = false)
      (yields : Yields memory value segment false (before.owned? value segment)) :
      Yields memory given segment (Stop.wraps ⟨value, live⟩) (before.owned? value segment) := by
    have wraps : Stop.wraps ⟨value, live⟩ = false := by simp [Stop.wraps, single, flat]
    rw [wraps, same]
    exact yields
  cases value with
  | map id =>
      have yields := yields_owned_map grown hands (of_decide_eq_true plain) segment
      cases live <;> exact yields
  | list id =>
      have yields := yields_owned_list grown hands (of_decide_eq_true plain) segment
      cases live <;> exact yields
  | liveMap id =>
      rw [hands.eq_of_flat rfl]
      exact yields_owned_liveMap grown plain segment
  | liveList id =>
      rw [hands.eq_of_flat rfl]
      exact yields_owned_liveList grown plain segment
  | tuple items => exact flat (hands.eq_of_flat rfl) rfl rfl (yields_tuple memory items segment)
  | missing | node | handle => cases plain
  | none | bool | int | float | nan | complex | str =>
      refine flat (hands.eq_of_flat rfl) rfl rfl ?_
      change Yields memory _ segment false
        (if segment.toList.head? == some '_' then none else none)
      rw [ite_self]
      exact yields_self rfl
  | _ => exact flat (hands.eq_of_flat rfl) rfl rfl (yields_object grown plain rfl)

/-! ## Whole paths -/

theorem follow_cons {next : Value} (present : next ≠ .missing)
    (ran : (segment? object segment).run memory = (.ok (some next), after)) (rest : List String) :
    (follow object (segment :: rest)).run memory = (follow next rest).run after := by
  unfold follow
  rw [run_bind_of_ok ran]
  cases next with
  | missing => exact absurd rfl present
  | _ => cases rest <;> rfl

/-- A path leads where it should, however memory has grown. -/
theorem run_follow (grown : Grows before memory) (stop : Stop) (hands : memory.HandsAt given stop)
    (plain : ∀ path last, before.walk? stop path = some last → before.isPlain last.value = true)
    (path : List String) :
    ∃ found after, (follow given path).run memory = (.ok found, after) ∧
      Option.Rel after.HandsAt found (before.walk? stop path) := by
  induction path generalizing memory given stop with
  | nil => exact ⟨some given, memory, rfl, .some hands⟩
  | cons segment rest ih =>
      obtain ⟨found, middle, ran, led⟩ := yields_owned grown hands (plain [] stop rfl) segment
      have grows := looks_grows.segment? given segment memory
      rw [ran] at grows
      cases owned : before.owned? stop.value segment with
      | none =>
          rw [owned] at led
          cases led
          refine ⟨none, middle, run_bind_of_ok ran, ?_⟩
          rw [walk?, next?, owned]
          exact .none
      | some value =>
          have step (rest : List String) : before.walk? stop (segment :: rest) =
              before.walk? ⟨value, stop.wraps⟩ rest := by
            rw [walk?, next?, owned]
            rfl
          rw [owned] at led
          cases led with
          | some hands =>
              have plain (path : List String) (last : Stop)
                  (walked : before.walk? ⟨value, stop.wraps⟩ path = some last) :
                  before.isPlain last.value = true :=
                plain (segment :: path) last ((step path).trans walked)
              have present := hands.ne_missing (plain [] _ rfl)
              rw [step, follow_cons present ran]
              exact ih (grown.trans grows) _ hands plain

theorem search_cons_of_none {candidate : Value} {path : List String}
    (ran : (follow candidate path).run memory = (.ok none, after)) (rest : List Value) :
    (findValue.search path (candidate :: rest)).run memory =
      (findValue.search path rest).run after := by
  rw [findValue.search, run_bind_of_ok ran]

theorem search_cons_of_some {candidate : Value} {path : List String}
    (ran : (follow candidate path).run memory = (.ok (some given), after)) (rest : List Value) :
    (findValue.search path (candidate :: rest)).run memory = (.ok given, after) := by
  rw [findValue.search, run_bind_of_ok ran]
  rfl

/-- The first candidate that owns every step answers; if none does, all further ones are asked. -/
theorem run_search {path : List String} {candidates : List Value}
    (plain : ∀ candidate ∈ candidates, before.PlainBelow candidate) (grown : Grows before memory) :
    ∃ found after, (findValue.search path candidates).run memory = (.ok found, after) ∧
      after.Answers found (candidates.findSome? (before.lookup? path)) ∧
        ∀ more, (findValue.search path (candidates ++ more)).run memory =
          match found with
          | .missing => (findValue.search path more).run after
          | found => (.ok found, after) := by
  induction candidates generalizing memory with
  | nil => exact ⟨.missing, memory, rfl, rfl, fun _ => rfl⟩
  | cons candidate rest ih =>
      have below := plain candidate List.mem_cons_self
      obtain ⟨found, middle, ran, led⟩ := run_follow grown ⟨candidate, false⟩ rfl below path
      have grows := looks_grows.follow candidate path memory
      rw [ran] at grows
      rw [List.findSome?_cons]
      cases looked : before.lookup? path candidate with
      | none =>
          rw [← lookup?, looked] at led
          cases led
          obtain ⟨found, after, searched, answers, onward⟩ :=
            ih (fun other known => plain other (List.mem_cons_of_mem _ known)) (grown.trans grows)
          refine ⟨found, after, (search_cons_of_none ran rest).trans searched, answers, ?_⟩
          exact fun more => (search_cons_of_none ran (rest ++ more)).trans (onward more)
      | some stop =>
          rw [← lookup?, looked] at led
          cases led with
          | some hands =>
              have present := hands.ne_missing (below path stop looked)
              refine ⟨_, middle, search_cons_of_some ran rest, ⟨present, hands⟩, fun more => ?_⟩
              refine (search_cons_of_some ran (rest ++ more)).trans ?_
              split
              · exact absurd rfl present
              · rfl

/--
Looking a path up never fails.  It answers with what the path leads to in the first candidate in
which every step is owned, be it nothing or undefined, and with the answer that nothing was found
if there is no such candidate.  So of two lists of candidates, one after the other, the second is
asked just when nothing was found in the first.
-/
theorem first_owner_answers {candidates : List Value} {path : List String}
    (plain : ∀ candidate ∈ candidates, memory.PlainBelow candidate) (steps : path ≠ []) :
    ∃ found after, (findValue candidates path).run memory = (.ok found, after) ∧
      Grows memory after ∧ after.Answers found (candidates.findSome? (memory.lookup? path)) ∧
        ∀ more, (findValue (candidates ++ more) path).run memory =
          match found with
          | .missing => (findValue more path).run after
          | found => (.ok found, after) := by
  have searches (candidates : List Value) :
      findValue candidates path = findValue.search path candidates := by
    cases path with
    | nil => exact absurd rfl steps
    | cons segment rest => rfl
  obtain ⟨found, after, ran, answers, onward⟩ := run_search plain (.refl memory)
  have grows := looks_grows.findValue candidates path memory
  rw [searches, ran] at grows
  simp only [searches]
  exact ⟨found, after, ran, grows, answers, onward⟩

/-- A map that has no list where the path goes on, a live one that has, and the list. -/
def twoShelves : Memory :=
  { Memory.empty with
    lists := #[[.int 7, .none]]
    maps := #[[(.str "shelf", .int 1)], [(.str "shelf", .list 0)]]
    liveMaps := #[⟨1, [], 0, []⟩]
    depCount := 1 }

theorem first_owner_answers_shelves :
    (∀ candidate ∈ [Value.map 0, .liveMap 0], twoShelves.PlainBelow candidate) ∧
      ["shelf", "-1"] ≠ [] ∧
        ∃ after, (findValue [.map 0, .liveMap 0] ["shelf", "-1"]).run twoShelves =
            (.ok .none, after) ∧
          ∀ more, (findValue ([.map 0, .liveMap 0] ++ more) ["shelf", "-1"]).run twoShelves =
            (.ok .none, after) := by
  have plain (candidate : Value) (known : candidate ∈ [Value.map 0, .liveMap 0]) :
      twoShelves.PlainBelow candidate := by
    refine plainBelow_of_holdsPlain (by decide +kernel) ?_
    rcases List.mem_pair.mp known with rfl | rfl <;> decide
  have steps : ["shelf", "-1"] ≠ [] := List.cons_ne_nil _ _
  obtain ⟨found, after, ran, -, answers, onward⟩ := first_owner_answers plain steps
  have looked : [Value.map 0, .liveMap 0].findSome? (twoShelves.lookup? ["shelf", "-1"]) =
      some ⟨.none, true⟩ := by
    rfl
  rw [looked] at answers
  obtain rfl : found = .none := answers.2.eq_of_flat rfl
  exact ⟨plain, steps, after, ran, onward⟩

end Observe

end ReactiveSchema
