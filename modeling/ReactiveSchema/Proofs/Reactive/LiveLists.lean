import ReactiveSchema.Proofs.Observe.Showing
import ReactiveSchema.Proofs.Reactive.ListOperations
import ReactiveSchema.Proofs.Reactive.Readers
import ReactiveSchema.Proofs.Reactive.Signals

/-!
# Operations of a live list

A live list changes the plain list behind it and tells of it; its longer operations are made of
single reads and writes.  As long as telling runs no effect, each of them leaves just the items
that the same operation of the plain list would leave.
-/

namespace ReactiveSchema

open Observe (placeOf? isCountable)

/-! ## Indices -/

/-- The index that is looked up when a live list is asked for an item. -/
def askedIndex (length : Nat) (index : Int) : Int :=
  if index < 0 then index + length else index

theorem placeOf?_askedIndex {length place : Nat} {index : Int}
    (found : placeOf? length index = some place) :
    placeOf? length (askedIndex length index) = some place := by
  unfold placeOf? askedIndex at *
  grind

theorem lt_of_placeOf? {length place : Nat} {index : Int}
    (found : placeOf? length index = some place) : place < length := by
  unfold placeOf? at found
  grind

section Exchanges

variable {items : List Value}

/-- Items with those at two places exchanged. -/
def exchange (items : List Value) (i j : Nat) : List Value :=
  (items.set i (items[j]?.getD .none)).set j (items[i]?.getD .none)

/-- Items with as many exchanges made from both ends. -/
def exchangeFrom (length : Nat) (items : List Value) (place : Nat) : Nat → List Value
  | 0 => items
  | count + 1 =>
      exchangeFrom length (exchange items place (length - place - 1)) (place + 1) count

theorem length_exchange (items : List Value) (i j : Nat) :
    (exchange items i j).length = items.length := by
  simp only [exchange, List.length_set]

theorem getElem?_exchange {items : List Value} {i j : Nat} (low : i < items.length)
    (high : j < items.length) (k : Nat) : (exchange items i j)[k]? =
      if k = j then items[i]? else if k = i then items[j]? else items[k]? := by
  unfold exchange
  grind

/-- Exchanges reach the outer places and leave the inner ones. -/
theorem getElem?_exchangeFrom {length count place : Nat} {items : List Value}
    (same : items.length = length) (inside : 2 * (place + count) ≤ length) (k : Nat) :
    (exchangeFrom length items place count)[k]? =
      if place ≤ k ∧ k < place + count ∨ length - place - count ≤ k ∧ k < length - place then
        items[length - 1 - k]?
      else items[k]? := by
  induction count generalizing items place with
  | zero =>
      rw [if_neg (by omega)]
      rfl
  | succ count ih =>
      have swapped (k : Nat) : (exchange items place (length - place - 1))[k]? = _ :=
        getElem?_exchange (by omega) (by omega) k
      rw [exchangeFrom, ih ((length_exchange _ _ _).trans same) (by omega), swapped, swapped]
      grind

theorem exchangeFrom_eq_reverse (items : List Value) :
    exchangeFrom items.length items 0 (items.length / 2) = items.reverse := by
  refine List.ext_getElem? fun k => ?_
  rw [getElem?_exchangeFrom rfl (by omega)]
  grind

theorem plain_exchange (plain : ∀ item ∈ items, item.isLive = false) (i j : Nat) :
    ∀ item ∈ exchange items i j, item.isLive = false := by
  have got (k : Nat) : (items[k]?.getD Value.none).isLive = false := by
    cases found : items[k]? with
    | none => rfl
    | some item => exact plain item (List.mem_of_getElem? found)
  intro item inside
  rcases List.mem_or_eq_of_mem_set inside with known | rfl
  · rcases List.mem_or_eq_of_mem_set known with known | rfl
    · exact plain item known
    · exact got j
  · exact got i

end Exchanges

/-! ## Worlds in which a live list shows items -/

namespace World

variable {α : Type} {world after : World} {runner : Runner} {id : LiveListId} {raw : ListId}
  {dep : DepId} {items : List Value}

/-- A live list shows the items of a plain one, and no effect runs when it tells of a change:
either because effects are put off or because nobody has read it. -/
structure Backs (world : World) (id : LiveListId) (raw : ListId) (dep : DepId)
    (items : List Value) : Prop where
  backed : world.memory.Backed id raw dep items
  quiet : world.reactor.idle = false ∨
    world.reactor.subscribersOf dep = [] ∧ world.reactor.activeEffect = none

/-- All that is shown in one memory is shown in another. -/
def Keeps (before after : Memory) : Prop :=
  ∀ face value, before.Shows face value → after.Shows face value

theorem keeps_of_grows {before after : Memory} (grows : Memory.Grows before after) :
    Keeps before after :=
  fun _ _ shows => shows.grow grows

theorem Keeps.trans {first middle last : Memory} (begun : Keeps first middle)
    (ended : Keeps middle last) : Keeps first last :=
  fun face value shows => ended face value (begun face value shows)

theorem backed_withItems {memory : Memory} (backed : memory.Backed id raw dep items)
    {later : List Value} (plain : ∀ item ∈ later, item.isLive = false) :
    (memory.withItems raw later).Backed id raw dep later where
  face := backed.face
  holds := by
    have known : raw < memory.lists.size := (Array.getElem?_eq_some_iff.mp backed.holds).1
    exact Array.getElem?_setIfInBounds_self_of_lt known
  plain := plain

/-- Looking at memory leaves a list as quiet as it was. -/
theorem Backs.observe (backs : world.Backs id raw dep items) {look : Observe α}
    {result : Except Fault α} {memory : Memory} {later : List Value}
    (ran : look.run (world.memory.seeing world.outlook) = (result, memory))
    (backed : memory.Backed id raw dep later)
    (keeps : Keeps (world.memory.seeing world.outlook) memory) :
    ∃ after, (Act.observe look).run world = (result, after) ∧ after.Backs id raw dep later ∧
      Keeps world.memory after.memory ∧ after.memory = memory.settled := by
  rw [Act.run_observe, ran]
  refine ⟨_, rfl, ⟨backed.grow memory.grows_settled, ?_⟩, ?_, rfl⟩
  · refine backs.quiet.imp (fun busy => ?_) fun ⟨nobody, calm⟩ => ?_
    · exact (Reactor.keeps_trackAll _ _).toKept.idle.trans busy
    · dsimp only
      rw [Reactor.trackAll_of_none _ calm]
      exact ⟨nobody, calm⟩
  · exact ((keeps_of_grows (world.memory.grows_seeing _)).trans keeps).trans
      (keeps_of_grows memory.grows_settled)

/-- Looking that only makes memory grow leaves the items as they are. -/
theorem Backs.look (backs : world.Backs id raw dep items) {look : Observe α}
    {result : Except Fault α} {memory : Memory}
    (ran : look.run (world.memory.seeing world.outlook) = (result, memory))
    (grows : Memory.Grows (world.memory.seeing world.outlook) memory) :
    ∃ after, (Act.observe look).run world = (result, after) ∧ after.Backs id raw dep items ∧
      Keeps world.memory after.memory ∧ after.memory = memory.settled :=
  backs.observe ran ((backs.backed.grow (world.memory.grows_seeing _)).grow grows)
    (keeps_of_grows grows)

/-! ## Changes -/

/-- How a change of a list of items ends, given which items it leaves, or that it fails. -/
inductive Ends (world : World) (id : LiveListId) (raw : ListId) (dep : DepId)
    (items : List Value) : Option (List Value) → Except Fault Unit × World → Prop where
  | well {later : List Value} {after : World} (backs : after.Backs id raw dep later)
      (keeps : Keeps world.memory after.memory) :
      Ends world id raw dep items (some later) (.ok (), after)
  | badly {cause : Cause} {after : World} (backs : after.Backs id raw dep items) :
      Ends world id raw dep items none (.error (.failure cause), after)

theorem Ends.of_some {later : List Value} {outcome : Except Fault Unit × World}
    (ended : Ends world id raw dep items (some later) outcome) :
    ∃ after, outcome = (.ok (), after) ∧ after.Backs id raw dep later ∧
      Keeps world.memory after.memory := by
  cases ended with
  | well backs keeps => exact ⟨_, rfl, backs, keeps⟩

theorem Ends.of_none {outcome : Except Fault Unit × World}
    (ended : Ends world id raw dep items none outcome) :
    ∃ cause after, outcome = (.error (.failure cause), after) ∧ after.Backs id raw dep items := by
  cases ended with
  | badly backs => exact ⟨_, _, rfl, backs⟩

theorem ends_rewrites (backs : world.Backs id raw dep items) {look : Observe Unit} :
    ∀ {spec : Option (List Value)}, Observe.Rewrites raw items look spec →
      (∀ later ∈ spec, ∀ item ∈ later, item.isLive = false) →
        Ends world id raw dep items spec ((Act.observe look).run world)
  | some later, rewrites, plain => by
      have backed := backs.backed.grow (world.memory.grows_seeing world.outlook)
      obtain ⟨after, ran, backs', keeps, -⟩ := backs.observe (rewrites _ backed.holds)
        (backed_withItems backed (plain later rfl)) fun _ _ shows => shows
      rw [ran]
      exact .well backs' keeps
  | none, rewrites, _ => by
      have backed := backs.backed.grow (world.memory.grows_seeing world.outlook)
      obtain ⟨cause, failed⟩ := rewrites _ backed.holds
      obtain ⟨after, ran, backs', -⟩ := backs.look failed (.refl _)
      rw [ran]
      exact .badly backs'

/-- Telling that a list has changed runs no effect. -/
theorem Backs.listChanged (backs : world.Backs id raw dep items) (runner : Runner) :
    ∃ after, (Act.listChanged runner id).run world = (.ok (), after) ∧
      after.Backs id raw dep items ∧ Keeps world.memory after.memory := by
  have backed := backs.backed.grow (world.memory.grows_seeing world.outlook)
  have forgot : (Observe.modifyLiveList id LiveList.forgetting).run
      (world.memory.seeing world.outlook) =
        (.ok (), (world.memory.seeing world.outlook).withLiveList id .forgetting) := rfl
  obtain ⟨middle, ran, backs', keeps, -⟩ := backs.observe forgot
    (backed.withLiveList .forgetting (fun _ => rfl) fun _ => rfl)
    fun _ _ shows => shows.imp_left (Memory.fronts_withLiveList .forgetting fun _ => rfl)
  have parts : Act.listChanged runner id = (do
      Act.observe (Observe.modifyLiveList id LiveList.forgetting)
      Act.trigger runner ((← get).memory.liveListAt id).dep) := rfl
  rw [parts, run_bind_of_ok ran, run_bind, run_get]
  dsimp only
  rw [backs'.backed.liveDep]
  rcases backs'.quiet with busy | ⟨nobody, calm⟩
  · rw [Act.run_trigger_busy dep busy]
    refine ⟨_, rfl, ⟨backs'.backed, .inl ?_⟩, keeps⟩
    exact (Reactor.kept_signal middle.reactor (.told dep)).idle.trans busy
  · rw [Act.run_trigger, nobody]
    exact ⟨_, rfl, ⟨backs'.backed, .inr ⟨nobody, calm⟩⟩, keeps⟩

/-- A change of the plain list, and telling of it. -/
theorem Backs.change (backs : world.Backs id raw dep items) {look : Observe Unit}
    {spec : Option (List Value)} (rewrites : Observe.Rewrites raw items look spec)
    (plain : ∀ later ∈ spec, ∀ item ∈ later, item.isLive = false) :
    Ends world id raw dep items spec ((do
      Act.observe look
      Act.listChanged runner id : Act Unit).run world) := by
  have ended := ends_rewrites backs rewrites plain
  cases spec with
  | some later =>
      obtain ⟨middle, ran, backs', keeps⟩ := ended.of_some
      obtain ⟨after, told, last, keeps'⟩ := backs'.listChanged runner
      rw [run_bind_of_ok ran, told]
      exact .well last (keeps.trans keeps')
  | none =>
      obtain ⟨cause, after, ran, backs'⟩ := ended.of_none
      rw [run_bind, ran]
      exact .badly backs'

/-! ## Single operations of a live list -/

theorem plain_set (backs : world.Backs id raw dep items) {index : Int} {value : Value}
    (plain : value.isLive = false) :
    ∀ later ∈ (placeOf? items.length index).map fun place => items.set place value,
      ∀ item ∈ later, item.isLive = false := by
  intro later known item inside
  obtain ⟨place, -, rfl⟩ := Option.map_eq_some_iff.mp known
  rcases List.mem_or_eq_of_mem_set inside with known | rfl
  · exact backs.backed.plain item known
  · exact plain

theorem plain_erase (backs : world.Backs id raw dep items) {index : Int} :
    ∀ later ∈ (placeOf? items.length index).map items.eraseIdx,
      ∀ item ∈ later, item.isLive = false := by
  intro later known item inside
  obtain ⟨place, -, rfl⟩ := Option.map_eq_some_iff.mp known
  exact backs.backed.plain item (List.mem_of_mem_eraseIdx inside)

theorem plain_insert (backs : world.Backs id raw dep items) {index : Int} {value : Value}
    (plain : value.isLive = false) :
    ∀ later ∈ if isCountable index then some (insertItem items index value) else none,
      ∀ item ∈ later, item.isLive = false := by
  intro later known item inside
  split at known
  · cases known
    rcases List.mem_append.mp inside with known | known
    · exact backs.backed.plain item (List.mem_of_mem_take known)
    · rcases List.mem_cons.mp known with rfl | known
      · exact plain
      · exact backs.backed.plain item (List.mem_of_mem_drop known)
  · cases known

theorem plain_extend (backs : world.Backs id raw dep items) {added : List Value}
    (plain : ∀ value ∈ added, value.isLive = false) :
    ∀ later ∈ some (items ++ added), ∀ item ∈ later, item.isLive = false := by
  intro later known item inside
  cases known
  exact (List.mem_append.mp inside).elim (backs.backed.plain item) (plain item)

theorem plain_replaceSlice (backs : world.Backs id raw dep items) {start stop : Option Int}
    {added : List Value} (plain : ∀ value ∈ added, value.isLive = false) :
    ∀ later ∈ some (replaceSlice items start stop added), ∀ item ∈ later, item.isLive = false := by
  intro later known item inside
  cases known
  rcases List.mem_append.mp inside with known | known
  · rcases List.mem_append.mp known with known | known
    · exact backs.backed.plain item (List.mem_of_mem_take known)
    · exact plain item known
  · exact backs.backed.plain item (List.mem_of_mem_drop known)

theorem Backs.plain_given (backs : world.Backs id raw dep items) :
    ∀ {supply : Supply}, supply.IsPlain → ∀ value ∈ supply.given items, value.isLive = false
  | .values _, plain => plain
  | .itself, _ => backs.backed.plain

theorem Backs.run_plainList (backs : world.Backs id raw dep items) :
    (Act.plainList id).run world = (.ok raw, world) := by
  unfold Act.plainList
  rw [run_bind, run_get]
  dsimp only
  rw [backs.backed.rawList]
  rfl

/-- Writing an item, given as it is or by a face that shows it. -/
theorem ends_liveListSet (backs : world.Backs id raw dep items) {index : Int} {given value : Value}
    (shows : world.memory.Shows given value) (plain : value.isLive = false) :
    Ends world id raw dep items
      ((placeOf? items.length index).map fun place => items.set place value)
      ((Act.liveListSet runner id (.int index) given).run world) := by
  unfold Act.liveListSet
  rw [run_bind, run_get]
  dsimp only
  rw [shows.toRaw, run_bind_of_ok backs.run_plainList]
  exact backs.change (Observe.rewrites_listSet index value) (plain_set backs plain)

theorem ends_liveListDelete (backs : world.Backs id raw dep items) (index : Int) :
    Ends world id raw dep items ((placeOf? items.length index).map items.eraseIdx)
      ((Act.liveListDelete runner id (.int index)).run world) := by
  unfold Act.liveListDelete
  rw [run_bind_of_ok backs.run_plainList]
  exact backs.change (Observe.rewrites_listDelete index) (plain_erase backs)

theorem Ends.since {middle : World} {spec : Option (List Value)}
    {outcome : Except Fault Unit × World} (ended : Ends middle id raw dep items spec outcome)
    (keeps : Keeps world.memory middle.memory) : Ends world id raw dep items spec outcome := by
  cases ended with
  | well backs keeps' => exact .well backs (keeps.trans keeps')
  | badly backs => exact .badly backs

theorem Backs.get_some (backs : world.Backs id raw dep items) {index : Int} {place : Nat}
    (found : placeOf? items.length (askedIndex items.length index) = some place) :
    ∃ value face after, items[place]? = some value ∧
      (Act.observe (Observe.liveListGetAt id index)).run world = (.ok face, after) ∧
        after.Backs id raw dep items ∧ Keeps world.memory after.memory ∧
          after.memory.Shows face value := by
  have inside := List.getElem?_eq_getElem (lt_of_placeOf? found)
  have backed := backs.backed.grow (world.memory.grows_seeing world.outlook)
  obtain ⟨face, memory, ran, grows, shows⟩ := Observe.run_liveListGetAt_some backed
    (Option.bind_eq_some_iff.mpr ⟨place, found, inside⟩)
  obtain ⟨after, looked, backs', keeps, same⟩ := backs.look ran grows
  exact ⟨_, face, after, inside, looked, backs', keeps, same ▸ shows.grow memory.grows_settled⟩

theorem Backs.get_none (backs : world.Backs id raw dep items) {index : Int}
    (missing : placeOf? items.length (askedIndex items.length index) = none) :
    ∃ after, (Act.observe (Observe.liveListGetAt id index)).run world =
        (.error (.failure (.outOfRange "list")), after) ∧
      after.Backs id raw dep items := by
  have backed := backs.backed.grow (world.memory.grows_seeing world.outlook)
  have failed := Observe.run_liveListGetAt backed index
  unfold askedIndex at missing
  dsimp only at failed
  rw [missing, Option.bind_none] at failed
  obtain ⟨after, looked, backs', -⟩ := backs.look failed (Memory.grows_reading _ dep)
  exact ⟨after, looked, backs'⟩

/-- An item that is there is removed and given. -/
theorem Backs.pop_some (backs : world.Backs id raw dep items) {index : Int} {place : Nat}
    (found : placeOf? items.length index = some place) :
    ∃ value face after, items[place]? = some value ∧
      (Act.liveListPop runner id (.int index)).run world = (.ok face, after) ∧
        after.Backs id raw dep (items.eraseIdx place) ∧ after.memory.Shows face value := by
  obtain ⟨value, face, middle, item, ran, backs', -, shows⟩ :=
    backs.get_some (placeOf?_askedIndex found)
  have ended : Ends middle id raw dep items _
      ((Act.liveListDelete runner id (.int index)).run middle) := ends_liveListDelete backs' index
  rw [found, Option.map_some] at ended
  obtain ⟨after, removed, last, keeps⟩ := ended.of_some
  refine ⟨value, face, after, item, ?_, last, keeps _ _ shows⟩
  unfold Act.liveListPop
  rw [run_bind_of_ok (show (Act.observe (Observe.liveListGet id (.int index))).run world = _
    from ran), run_bind_of_ok removed]
  rfl

/-- Exchanging two items reads both and then writes both. -/
theorem Backs.swap (backs : world.Backs id raw dep items) {i j : Nat} (low : i < items.length)
    (high : j < items.length) :
    ∃ after, (Act.liveListSwap runner id i j).run world = (.ok (), after) ∧
      after.Backs id raw dep (exchange items i j) := by
  have place {k length : Nat} (inside : k < length) : placeOf? length (k : Int) = some k := by
    unfold placeOf?
    grind
  obtain ⟨last, face, first, item, ran, backs', -, shows⟩ :=
    backs.get_some (placeOf?_askedIndex (place high))
  obtain ⟨value, face', second, item', ran', backs'', keeps, shows'⟩ :=
    backs'.get_some (placeOf?_askedIndex (place low))
  have ended : Ends second id raw dep items _
      ((Act.liveListSet runner id (.int i) face).run second) :=
    ends_liveListSet backs'' (keeps _ _ shows)
      (backs.backed.plain _ (List.mem_of_getElem? item))
  rw [place low, Option.map_some] at ended
  obtain ⟨third, wrote, backs''', keeps'⟩ := ended.of_some
  have ended : Ends third id raw dep (items.set i last) _
      ((Act.liveListSet runner id (.int j) face').run third) :=
    ends_liveListSet backs''' (keeps' _ _ shows')
      (backs.backed.plain _ (List.mem_of_getElem? item'))
  rw [List.length_set, place high, Option.map_some] at ended
  obtain ⟨after, wrote', backs, -⟩ := ended.of_some
  refine ⟨after, ?_, ?_⟩
  · unfold Act.liveListSwap
    rw [run_bind_of_ok ran, run_bind_of_ok ran', run_bind_of_ok wrote, wrote']
  · unfold exchange
    rw [item, item']
    exact backs

theorem Backs.reverseFrom {length : Nat} (backs : world.Backs id raw dep items)
    (same : items.length = length) {place count : Nat} (inside : 2 * (place + count) ≤ length) :
    ∃ after, (Act.liveListReverseFrom runner id length place count).run world = (.ok (), after) ∧
      after.Backs id raw dep (exchangeFrom length items place count) := by
  induction count generalizing world items place with
  | zero => exact ⟨world, rfl, backs⟩
  | succ count ih =>
      obtain ⟨middle, ran, backs'⟩ : ∃ after,
          (Act.liveListSwap runner id place ((length - place - 1 : Nat) : Int)).run world =
            (.ok (), after) ∧ after.Backs id raw dep (exchange items place (length - place - 1)) :=
        backs.swap (by omega) (by omega)
      obtain ⟨after, ran', last⟩ := ih backs' ((length_exchange _ _ _).trans same)
        (show 2 * (place + 1 + count) ≤ length by omega)
      refine ⟨after, ?_, last⟩
      have high : (length : Int) - place - 1 = ((length - place - 1 : Nat) : Int) := by omega
      unfold Act.liveListReverseFrom
      rw [high, run_bind_of_ok ran, ran']

theorem Backs.reverse (backs : world.Backs id raw dep items) :
    ∃ after, (Act.liveListReverse runner id).run world = (.ok (), after) ∧
      after.Backs id raw dep items.reverse := by
  obtain ⟨memory, ran, grows⟩ :=
    Observe.run_liveListLength (backs.backed.grow (world.memory.grows_seeing world.outlook))
  obtain ⟨middle, looked, backs', -⟩ := backs.look ran grows
  obtain ⟨after, ran', last⟩ : ∃ after,
      (Act.liveListReverseFrom runner id items.length 0 (items.length / 2)).run middle =
        (.ok (), after) ∧ after.Backs id raw dep _ := backs'.reverseFrom rfl (by omega)
  rw [exchangeFrom_eq_reverse] at last
  refine ⟨after, ?_, last⟩
  unfold Act.liveListReverse
  rw [run_bind_of_ok looked, ran']

/-! ## Emptying a live list -/

theorem run_untilFailure_ok {kind : FailureKind} {body : Act Unit} (limit : Nat)
    (ran : body.run world = (.ok (), after)) :
    (Act.untilFailure kind body (limit + 1)).run world =
      (Act.untilFailure kind body limit).run after := by
  have more : (do body; return true : Act Bool).run world = (.ok true, after) := by
    rw [run_bind_of_ok ran]
    rfl
  unfold Act.untilFailure
  rw [run_bind, run_tryCatch, more]
  cases limit <;> rfl

theorem run_untilFailure_failed {kind : FailureKind} {body : Act Unit} {fault : Fault} (limit : Nat)
    (ran : body.run world = (.error fault, after)) (expected : fault.isKind kind = true) :
    (Act.untilFailure kind body (limit + 1)).run world = (.ok (), after) := by
  have more : (do body; return true : Act Bool).run world = (.error fault, after) := by
    rw [run_bind, ran]
  unfold Act.untilFailure
  rw [run_bind, run_tryCatch, more]
  dsimp only
  rw [if_pos expected]
  rfl

/-- Items are removed from the end until there are none. -/
theorem Backs.clear {limit : Nat} (backs : world.Backs id raw dep items)
    (enough : items.length < limit) :
    ∃ after, (Act.untilFailure .index (do let _ ← Act.liveListPop runner id (.int (-1))) limit).run
      world = (.ok (), after) ∧ after.Backs id raw dep [] := by
  induction limit generalizing world items with
  | zero => omega
  | succ limit ih =>
      rcases List.eq_nil_or_concat items with rfl | ⟨init, last, rfl⟩
      · have nowhere : placeOf? 0 (askedIndex 0 (-1)) = none := rfl
        obtain ⟨after, failed, backs'⟩ := backs.get_none nowhere
        have failed : (do let _ ← Act.liveListPop runner id (.int (-1)) : Act Unit).run world =
            (.error (.failure (.outOfRange "list")), after) := by
          unfold Act.liveListPop
          rw [run_bind, run_bind,
            show (Act.observe (Observe.liveListGet id (.int (-1)))).run world = _ from failed]
        exact ⟨after, run_untilFailure_failed limit failed rfl, backs'⟩
      · rw [List.concat_eq_append] at *
        rw [List.length_append, List.length_singleton] at enough
        have found : placeOf? (init ++ [last]).length (-1) = some init.length := by
          rw [List.length_append, List.length_singleton]
          unfold placeOf?
          grind
        obtain ⟨value, face, middle, -, popped, backs', -⟩ : ∃ value face middle, _ ∧
          (Act.liveListPop runner id (.int (-1))).run world = (.ok face, middle) ∧ _ :=
            backs.pop_some found
        rw [List.eraseIdx_append_of_length_le (Nat.le_refl _), Nat.sub_self] at backs'
        have removed : (do let _ ← Act.liveListPop runner id (.int (-1)) : Act Unit).run world =
            (.ok (), middle) := by
          rw [run_bind_of_ok popped]
          rfl
        rw [run_untilFailure_ok limit removed]
        have left : middle.Backs id raw dep init := by simpa using backs'
        exact ih left (by omega)

end World

end ReactiveSchema
