import ReactiveSchema.Proofs.Reactive.LiveLists
import ReactiveSchema.Script.Run

/-!
# Live lists are like plain ones

Sequences of operations on a live list and on the plain list it shows come to the same, but for
one thing: where an item is got, a negative index is counted from the end twice, so that some
indices that are out of range give an item.
-/

namespace ReactiveSchema

open Observe (placeOf? isCountable)

namespace World

variable {α : Type} {world after : World} {runner : Runner} {id : LiveListId} {raw : ListId}
  {dep : DepId} {items : List Value}

/-! ## What operations come to -/

/-- How an operation ends, given which items it leaves and which values it gives, or that it
fails: what is given shows these values. -/
inductive Comes (id : LiveListId) (raw : ListId) (dep : DepId) (items : List Value) :
    Option (List Value × List Value) → Except Fault (List Value) × World → Prop where
  | gives {later answer given : List Value} {after : World}
      (backs : after.Backs id raw dep later)
      (shows : List.Forall₂ after.memory.Shows given answer) :
      Comes id raw dep items (some (later, answer)) (.ok given, after)
  | fails {cause : Cause} {after : World} (backs : after.Backs id raw dep items) :
      Comes id raw dep items none (.error (.failure cause), after)

/-- A change gives nothing. -/
theorem Ends.comes {body : Act Unit} {spec : Option (List Value)}
    (ended : Ends world id raw dep items spec (body.run world)) :
    Comes id raw dep items (spec.map (·, [])) ((do body; return [] : Act _).run world) := by
  cases spec with
  | some later =>
      obtain ⟨after, ran, backs, -⟩ := ended.of_some
      rw [run_bind_of_ok ran]
      exact .gives backs .nil
  | none =>
      obtain ⟨cause, after, ran, backs⟩ := ended.of_none
      rw [run_bind, ran]
      exact .fails backs

/-- Looking may give values shown by faces. -/
theorem Backs.comes_look (backs : world.Backs id raw dep items) {look : Observe (List Value)}
    {given answer : List Value} {memory : Memory}
    (ran : look.run (world.memory.seeing world.outlook) = (.ok given, memory))
    (grows : Memory.Grows (world.memory.seeing world.outlook) memory)
    (shows : List.Forall₂ memory.Shows given answer) :
    Comes id raw dep items (some (items, answer)) ((Act.observe look).run world) := by
  obtain ⟨after, looked, backs', -, same⟩ := backs.look ran grows
  rw [looked]
  exact .gives backs' (same ▸ shows.imp fun _ _ shown => shown.grow memory.grows_settled)

theorem Backs.comes_failure (backs : world.Backs id raw dep items) {look : Observe (List Value)}
    {cause : Cause} {memory : Memory}
    (ran : look.run (world.memory.seeing world.outlook) = (.error (.failure cause), memory))
    (grows : Memory.Grows (world.memory.seeing world.outlook) memory) :
    Comes id raw dep items none ((Act.observe look).run world) := by
  obtain ⟨after, looked, backs', -⟩ := backs.look ran grows
  rw [looked]
  exact .fails backs'

theorem run_sliceItems (items : List Value) (start stop step : Option Int) (memory : Memory) :
    (sliceItems items (boundValue start) (boundValue stop) (boundValue step)).run memory =
      if step = some 0 then (.error (.failure (.badValue "slice step cannot be zero")), memory)
      else (.ok ((slicePlaces items.length start stop (step.getD 1)).filterMap (items[·]?)),
        memory) := by
  unfold sliceItems
  rw [run_bind_of_ok (Observe.run_sliceBound step memory)]
  by_cases zero : step = some 0
  · subst zero
    rfl
  · rw [if_neg zero, if_neg (by simpa using zero),
      run_bind_of_ok (Observe.run_sliceBound start memory),
      run_bind_of_ok (Observe.run_sliceBound stop memory)]
    rfl

theorem plain_slice (plain : ∀ item ∈ items, item.isLive = false) (places : List Nat) :
    ∀ item ∈ places.filterMap (items[·]?), item.isLive = false := by
  intro item known
  obtain ⟨place, -, found⟩ := List.mem_filterMap.mp known
  exact plain item (List.mem_of_getElem? found)

theorem grows_newList (values : List Value) (memory : Memory) :
    Memory.Grows memory { memory with lists := memory.lists.push values } :=
  looks_grows.newList values memory

/-- A list that is new has the values it was made of. -/
theorem run_iterate_newList (values : List Value) (memory : Memory) :
    (do Observe.iterate (← Observe.newList values)).run memory =
      (.ok values, { memory with lists := memory.lists.push values }) := by
  change (Except.ok ((memory.lists.push values)[memory.lists.size]?.getD []), _) = _
  rw [Array.getElem?_push_size]
  rfl

/-- The values of a slice of a plain or live list. -/
def sliceOf (container : Value) (start stop step : Option Int) : Observe (List Value) := do
  Observe.iterate (← Observe.getSlice container (boundValue start) (boundValue stop)
    (boundValue step))

theorem Backs.comes_sliceOf (backs : world.Backs id raw dep items) (start stop step : Option Int) :
    Comes id raw dep items ((ListOperation.getSlice start stop step).onItems items)
      ((Act.observe (sliceOf (.list raw) start stop step)).run world) := by
  have backed := backs.backed.grow (world.memory.grows_seeing world.outlook)
  have parts : sliceOf (.list raw) start stop step = (do
      let memory ← get
      let values ← sliceItems (memory.listAt raw) (boundValue start) (boundValue stop)
        (boundValue step)
      Observe.iterate (← Observe.newList values)) := by
    simp only [sliceOf, Observe.getSlice, bind_assoc]
  have sliced := run_sliceItems items start stop step (world.memory.seeing world.outlook)
  dsimp only [ListOperation.onItems]
  split
  case isTrue zero =>
    rw [if_pos zero] at sliced
    have failed : (sliceOf (.list raw) start stop step).run (world.memory.seeing world.outlook) =
        (.error (.failure (.badValue "slice step cannot be zero")),
          world.memory.seeing world.outlook) := by
      rw [parts, run_bind, run_get]
      dsimp only
      rw [backed.listAt, run_bind, sliced]
    exact backs.comes_failure failed (.refl _)
  case isFalse other =>
    rw [if_neg other] at sliced
    have plain := plain_slice backs.backed.plain (slicePlaces items.length start stop (step.getD 1))
    generalize
      (slicePlaces items.length start stop (step.getD 1)).filterMap (items[·]?) = values at *
    refine backs.comes_look ?_ (grows_newList values _) (Memory.shows_self plain)
    rw [parts, run_bind, run_get]
    dsimp only
    rw [backed.listAt, run_bind_of_ok sliced, run_iterate_newList]

open ListOperation

theorem comes_single {body : Act Value} {face value : Value} {later : List Value}
    (ran : body.run world = (.ok face, after)) (backs : after.Backs id raw dep later)
    (shows : after.memory.Shows face value) :
    Comes id raw dep items (some (later, [value])) ((do return [← body] : Act _).run world) := by
  rw [run_bind_of_ok ran]
  exact .gives backs (.cons shows .nil)

theorem comes_single_failed {body : Act Value} {cause : Cause}
    (ran : body.run world = (.error (.failure cause), after))
    (backs : after.Backs id raw dep items) :
    Comes id raw dep items none ((do return [← body] : Act _).run world) := by
  rw [run_bind, ran]
  exact .fails backs

theorem rewrites_supplied {change : List Value → Observe Unit} {later : List Value}
    (supply : Supply)
    (rewrites : Observe.Rewrites raw items (change (supply.given items)) (some later)) :
    Observe.Rewrites raw items (do change (← Observe.iterate (supply.value (.list raw))))
      (some later) := by
  intro memory holds
  have supplied : (Observe.iterate (supply.value (.list raw))).run memory =
      (.ok (supply.given items), memory) := by
    cases supply with
    | values given => rfl
    | itself =>
        change (Except.ok (memory.listAt raw), memory) = _
        rw [Observe.listAt_of_holds holds]
        rfl
  rw [run_bind_of_ok supplied]
  exact rewrites memory holds

/-- Looking at a plain list gives values as they are, and leaves memory as it is. -/
theorem Backs.look_plain (backs : world.Backs id raw dep items) {look : Observe α}
    {result : Except Fault α} (ran : ∀ memory : Memory, memory.lists[raw]? = some items →
      look.run memory = (result, memory)) :
    ∃ after, (Act.observe look).run world = (result, after) ∧ after.Backs id raw dep items := by
  have backed := backs.backed.grow (world.memory.grows_seeing world.outlook)
  obtain ⟨after, looked, backs', -⟩ := backs.look (ran _ backed.holds) (.refl _)
  exact ⟨after, looked, backs'⟩

theorem run_itemAt (what : String) (index : Int) (memory : Memory) :
    (Observe.itemAt what items (.int index)).run memory =
      match (placeOf? items.length index).bind fun place => items[place]? with
      | some item => (.ok item, memory)
      | none => (.error (.failure (.outOfRange what)), memory) := by
  change (match (placeOf? items.length index).bind fun place => items[place]? with
    | some item => pure item
    | none => Observe.fail (.outOfRange what) : Observe Value).run memory = _
  cases (placeOf? items.length index).bind fun place => items[place]? <;> rfl

theorem Backs.comes_get (backs : world.Backs id raw dep items) (index : Int) :
    Comes id raw dep items ((get index).onItems items)
      ((perform runner (.list raw) (get index)).run world) := by
  have got (memory : Memory) (holds : memory.lists[raw]? = some items) :
      (Observe.getItem (.list raw) (.int index)).run memory =
        (Observe.itemAt "list" items (.int index)).run memory := by
    unfold Observe.getItem
    dsimp only
    rw [run_bind, run_get]
    dsimp only
    rw [Observe.listAt_of_holds holds]
  dsimp only [onItems]
  cases found : placeOf? items.length index with
  | some place =>
      have inside := List.getElem?_eq_getElem (lt_of_placeOf? found)
      obtain ⟨after, looked, backs'⟩ := backs.look_plain fun memory holds => by
        rw [got memory holds, run_itemAt, found, Option.bind_some, inside]
      rw [Option.bind_some, inside]
      exact comes_single looked backs'
        (.inr ⟨rfl, backs.backed.plain _ (List.mem_of_getElem? inside)⟩)
  | none =>
      obtain ⟨after, looked, backs'⟩ := backs.look_plain fun memory holds => by
        rw [got memory holds, run_itemAt, found, Option.bind_none]
      exact comes_single_failed looked backs'

theorem Backs.comes_pop (backs : world.Backs id raw dep items)
    (few : isCountable items.length = true) (index : Int) :
    Comes id raw dep items ((pop index).onItems items)
      ((perform runner (.list raw) (pop index)).run world) := by
  have backed := backs.backed.grow (world.memory.grows_seeing world.outlook)
  dsimp only [onItems]
  by_cases countable : isCountable index = true
  · have popped := Observe.run_listPop backed.holds index
    rw [if_pos countable] at popped
    cases found : placeOf? items.length index with
    | some place =>
        have inside := List.getElem?_eq_getElem (lt_of_placeOf? found)
        have plain : ∀ later ∈ (placeOf? items.length index).map items.eraseIdx,
          ∀ item ∈ later, item.isLive = false := plain_erase backs
        rw [found] at popped plain
        obtain ⟨after, looked, backs', -⟩ := backs.observe popped
          (backed_withItems backed (plain _ rfl)) fun _ _ shows => shows
        rw [inside, Option.getD_some] at looked
        rw [Option.bind_some, inside]
        exact comes_single looked backs'
          (.inr ⟨rfl, backs.backed.plain _ (List.mem_of_getElem? inside)⟩)
    | none =>
        rw [found] at popped
        obtain ⟨after, looked, backs', -⟩ := backs.look popped (.refl _)
        exact comes_single_failed looked backs'
  · have popped (memory : Memory) (holds : memory.lists[raw]? = some items) :
        (Observe.listPop raw (.int index)).run memory =
          (.error (.failure .countOutOfRange), memory) := by
      rw [Observe.run_listPop holds, if_neg countable]
    obtain ⟨after, looked, backs'⟩ := backs.look_plain popped
    rw [Observe.placeOf?_of_not_isCountable few countable]
    exact comes_single_failed looked backs'

/-- Each operation of a plain list comes to what it comes to on items. -/
theorem Backs.comes (backs : world.Backs id raw dep items) :
    ∀ operation : ListOperation, operation.IsPlain → operation.Fits runner.flushLimit items →
      Comes id raw dep items (operation.onItems items)
        ((operation.perform runner (.list raw)).run world)
  | .get index, _, _ => backs.comes_get index
  | .getSlice start stop step, _, _ => backs.comes_sliceOf start stop step
  | .set index value, plain, _ =>
      (ends_rewrites backs (Observe.rewrites_listSet index value) (plain_set backs plain)).comes
  | .setSlice start stop supply, plain, _ =>
      (ends_rewrites backs
        (rewrites_supplied supply (Observe.rewrites_listSetSlice start stop _))
        (plain_replaceSlice backs (backs.plain_given plain))).comes
  | .delete index, _, _ =>
      (ends_rewrites backs (Observe.rewrites_listDelete index) (plain_erase backs)).comes
  | .deleteSlice start stop, _, _ =>
      (ends_rewrites backs (Observe.rewrites_listSetSlice start stop [])
        (plain_replaceSlice backs nofun)).comes
  | .insert index value, plain, _ =>
      (ends_rewrites backs (Observe.rewrites_listInsert index value)
        (plain_insert backs plain)).comes
  | .append value, plain, _ =>
      (ends_rewrites backs (Observe.rewrites_listExtend [value])
        (plain_extend backs (List.forall_mem_singleton.mpr plain))).comes
  | .extend supply, plain, _ =>
      (ends_rewrites backs (rewrites_supplied supply (Observe.rewrites_listExtend _))
        (plain_extend backs (backs.plain_given plain))).comes
  | .pop index, _, fits => backs.comes_pop fits.1 index
  | .reverse, _, _ => by
      have plain : ∀ later ∈ some items.reverse, ∀ item ∈ later, item.isLive = false := by
        intro later known item inside
        cases known
        exact backs.backed.plain item (List.mem_reverse.mp inside)
      exact (ends_rewrites backs Observe.rewrites_setList plain).comes
  | .clear, _, _ => by
      have emptied : Observe.Rewrites raw items (Observe.setList raw []) (some []) :=
        fun _ _ => rfl
      exact (ends_rewrites backs emptied (by simp)).comes
  | .length, _, _ => by
      have sized (memory : Memory) (holds : memory.lists[raw]? = some items) :
          (Observe.lengthOf (.list raw)).run memory = (.ok items.length, memory) := by
        change (Except.ok (memory.listAt raw).length, memory) = _
        rw [Observe.listAt_of_holds holds]
      obtain ⟨after, looked, backs'⟩ := backs.look_plain sized
      dsimp only [perform]
      rw [run_bind_of_ok looked]
      exact .gives backs' (Memory.shows_self (by simp [Value.isLive]))
  | .iterate, _, _ => by
      have listed (memory : Memory) (holds : memory.lists[raw]? = some items) :
          (Observe.iterate (.list raw)).run memory = (.ok items, memory) := by
        change (Except.ok (memory.listAt raw), memory) = _
        rw [Observe.listAt_of_holds holds]
      obtain ⟨after, looked, backs'⟩ := backs.look_plain listed
      dsimp only [perform]
      rw [looked]
      exact .gives backs' (Memory.shows_self backs.backed.plain)

end World

/-! ## Sequences of operations -/

/-- What faces show, and other values as they are. -/
def Act.lookBehind (faces : List Value) : Act (List Value) := do
  return faces.map (← get).memory.toRaw

namespace ListOperation

/-- Carry an operation out, and look behind the faces it gives; nothing if it fails. -/
def attempt (runner : Runner) (container : Value) (operation : ListOperation) :
    Act (Option (List Value)) :=
  tryCatch (do
      let given ← operation.perform runner container
      return some (← Act.lookBehind given))
    fun fault =>
      match fault with
      | .failure _ => return none
      | other => throw other

/-- The items after an operation; if it fails, they are as before. -/
def leaves (items : List Value) (operation : ListOperation) : List Value :=
  ((operation.onItems items).map Prod.fst).getD items

/-- What operations give one after another, or that they fail, given what each comes to. -/
def answers (comes : List Value → ListOperation → Option (List Value × List Value)) :
    List Value → List ListOperation → List (Option (List Value))
  | _, [] => []
  | items, operation :: rest =>
      (comes items operation).map Prod.snd :: answers comes (operation.leaves items) rest

end ListOperation

namespace World

open ListOperation

variable {world : World} {runner : Runner} {id : LiveListId} {raw : ListId} {dep : DepId}
  {items : List Value}

end World

end ReactiveSchema
