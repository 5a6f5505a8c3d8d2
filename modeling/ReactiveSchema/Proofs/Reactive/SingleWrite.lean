import ReactiveSchema.Proofs.Reactive.Signals

/-!
# Single writes

The writes that live containers and cells offer.  Each first looks at memory and
changes it.  A write of a map then tells what has changed in a batch of its own;
a write of a cell or a list tells its readers at once, last of all.
-/

namespace ReactiveSchema

/-- A write of a cell, of a live map or of a live list. -/
inductive Write where
  | content (cell : RefId) (content : Value)
  | entry (map : LiveMapId) (key value : Value)
  | removal (map : LiveMapId) (key : Value)
  | merging (map : LiveMapId) (source : Value)
  | item (list : LiveListId) (index value : Value)
  | itemRemoval (list : LiveListId) (index : Value)
  | insertion (list : LiveListId) (index value : Value)
  | extension (list : LiveListId) (source : Value)
  | slice (list : LiveListId) (start stop source : Value)
  | sliceRemoval (list : LiveListId) (start stop : Value)

namespace Write

/-- Make a write. -/
def perform (runner : Runner) : Write → Act Unit
  | content cell value => Act.refSet runner cell value
  | entry map key value => Act.liveMapSet runner map key value
  | removal map key => Act.liveMapDelete runner map key
  | merging map source => Act.liveMapUpdate runner map source
  | item list index value => Act.liveListSet runner list index value
  | itemRemoval list index => Act.liveListDelete runner list index
  | insertion list index value => Act.liveListInsert runner list index value
  | extension list source => Act.liveListExtend runner list source
  | slice list start stop source => Act.liveListSetSlice runner list start stop source
  | sliceRemoval list start stop => Act.liveListDeleteSlice runner list start stop

/-- Does the write tell in a batch of its own? -/
def gathers : Write → Bool
  | entry .. | removal .. | merging .. => true
  | _ => false

end Write

/-- The running effect may have read; effects and listeners are otherwise as they were. -/
structure Looked (before after : World) : Prop where
  tracked : ∃ deps, after.reactor = before.reactor.trackAll deps
  listeners : after.listeners = before.listeners

theorem composable_looked : Composable Looked where
  refl world := ⟨⟨[], rfl⟩, rfl⟩
  trans first second := by
    obtain ⟨deps, tracked⟩ := first.tracked
    obtain ⟨more, tracked'⟩ := second.tracked
    refine ⟨⟨deps ++ more, ?_⟩, second.listeners.trans first.listeners⟩
    rw [tracked', tracked]
    unfold Reactor.trackAll
    rw [List.foldl_append]

namespace Act

variable {α : Type} {runner : Runner}

theorem looked_observe (look : Observe α) : Along Looked (observe look) :=
  fun _ => ⟨⟨_, rfl⟩, rfl⟩

/-- A computation that at most tells tracked state at its very end. -/
structure TellsLast (runner : Runner) (body : Act Unit) : Prop where
  told {world after : World} {result : Except Fault Unit} :
    body.run world = (result, after) →
      Looked world after ∨
        ∃ middle dep, Looked world middle ∧ (trigger runner dep).run middle = (result, after)

theorem tellsLast_of_looked {body : Act Unit} (looks : Along Looked body) :
    TellsLast runner body := by
  refine ⟨fun {world after result} ran => ?_⟩
  have looked := looks world
  rw [ran] at looked
  exact .inl looked

theorem tellsLast_trigger (dep : DepId) : TellsLast runner (trigger runner dep) :=
  ⟨fun ran => .inr ⟨_, dep, composable_looked.refl _, ran⟩⟩

theorem TellsLast.after {first : Act α} {next : α → Act Unit} (looks : Along Looked first)
    (rest : ∀ value, TellsLast runner (next value)) : TellsLast runner (first >>= next) := by
  refine ⟨fun {world after result} ran => ?_⟩
  have looked := looks world
  rw [run_bind] at ran
  rcases begun : first.run world with ⟨fault | value, middle⟩ <;> rw [begun] at ran looked
  · obtain ⟨-, rfl⟩ := Prod.mk.inj ran
    exact .inl looked
  · rcases (rest value).told ran with looked' | ⟨late, dep, looked', told⟩
    · exact .inl (composable_looked.trans looked looked')
    · exact .inr ⟨late, dep, composable_looked.trans looked looked', told⟩

theorem tellsLast_refSet (cell : RefId) (value : Value) :
    TellsLast runner (refSet runner cell value) := by
  unfold refSet
  refine .after composable_looked.get fun world => ?_
  dsimp only
  split
  · exact tellsLast_of_looked (composable_looked.pure ())
  · refine .after (looked_observe _) fun changed => ?_
    split
    · exact .after (looked_observe _) fun _ => tellsLast_trigger _
    · exact tellsLast_of_looked (composable_looked.pure ())

/-- A change of the plain list behind a live one. -/
theorem tellsLast_listChange (list : LiveListId) (change : ListId → Observe Unit) :
    TellsLast runner (do
      observe (change (← plainList list))
      listChanged runner list) := by
  refine .after (composable_looked.bind composable_looked.get fun _ =>
    composable_looked.pure _) fun raw => ?_
  refine .after (looked_observe _) fun _ => .after (looked_observe _) fun _ => ?_
  exact .after composable_looked.get fun _ => tellsLast_trigger _

/-! ## Writes of maps -/

/-- A computation that looks, and may then work in a batch of its own, in which it only signals. -/
structure Gathers (runner : Runner) (body : Act Unit) : Prop where
  gathered {world after : World} {result : Except Fault Unit} :
    body.run world = (result, after) →
      Looked world after ∨ ∃ middle inside, Looked world middle ∧
        Along Signals inside ∧ (batch runner inside).run middle = (result, after)

theorem gathers_batch {inside : Act Unit} (signals : Along Signals inside) :
    Gathers runner (batch runner inside) :=
  ⟨fun ran => .inr ⟨_, inside, composable_looked.refl _, signals, ran⟩⟩

theorem Gathers.after {first : Act α} {next : α → Act Unit} (looks : Along Looked first)
    (rest : ∀ value, Gathers runner (next value)) : Gathers runner (first >>= next) := by
  refine ⟨fun {world after result} ran => ?_⟩
  have looked := looks world
  rw [run_bind] at ran
  rcases begun : first.run world with ⟨fault | value, middle⟩ <;> rw [begun] at ran looked
  · obtain ⟨-, rfl⟩ := Prod.mk.inj ran
    exact .inl looked
  · rcases (rest value).gathered ran with looked' | ⟨late, inside, looked', told⟩
    · exact .inl (composable_looked.trans looked looked')
    · exact .inr ⟨late, inside, composable_looked.trans looked looked', told⟩

theorem gathers_liveMapSet (map : LiveMapId) (key value : Value) :
    Gathers runner (liveMapSet runner map key value) := by
  rw [liveMapSet_eq]
  refine .after composable_looked.get fun world => .after (looked_observe _) fun old => ?_
  refine .after (looked_observe _) fun _ => gathers_batch ?_
  exact respectedByWrites_signals.tellWritten map key _ old

theorem gathers_liveMapDelete (map : LiveMapId) (key : Value) :
    Gathers runner (liveMapDelete runner map key) := by
  have signals : RespectedByWrites runner fun _ => Along Signals := respectedByWrites_signals
  refine .after (looked_observe _) fun _ => gathers_batch ?_
  exact signals.bind (signals.triggerKeys map) fun _ => signals.triggerKey map key

theorem gathers_liveMapUpdate (map : LiveMapId) (source : Value) :
    Gathers runner (liveMapUpdate runner map source) := by
  have signals : RespectedByWrites runner fun _ => Along Signals := respectedByWrites_signals
  refine gathers_batch (signals.bind (signals.observe (looks_balanced.iterate source)) fun items => ?_)
  split
  · exact signals.liveMapCopyKeys map source items
  · exact signals.liveMapWritePairs map items

end Act

theorem Write.gathered {runner : Runner} {write : Write} (gathers : write.gathers = true) :
    Act.Gathers runner (write.perform runner) := by
  cases write with
  | entry map key value => exact Act.gathers_liveMapSet map key value
  | removal map key => exact Act.gathers_liveMapDelete map key
  | merging map source => exact Act.gathers_liveMapUpdate map source
  | content | item | itemRemoval | insertion | extension | slice | sliceRemoval => cases gathers

/-- Writes of cells and lists tell at most once, at the end. -/
theorem Write.tellsLast {runner : Runner} {write : Write} (alone : write.gathers = false) :
    Act.TellsLast runner (write.perform runner) := by
  cases write with
  | content cell value => exact Act.tellsLast_refSet cell value
  | entry | removal | merging => cases alone
  | item list index value =>
      exact .after composable_looked.get fun _ => Act.tellsLast_listChange list _
  | itemRemoval list index => exact Act.tellsLast_listChange list _
  | insertion list index value =>
      exact .after composable_looked.get fun _ => Act.tellsLast_listChange list _
  | extension list source =>
      exact .after (Act.looked_observe _) fun _ => Act.tellsLast_listChange list _
  | slice list start stop source =>
      exact .after (Act.looked_observe _) fun _ => Act.tellsLast_listChange list _
  | sliceRemoval list start stop => exact Act.tellsLast_listChange list _

/-! ## What a write comes to -/

/-- How what a write has told reaches the readers: not now, by one flush, or one after another. -/
inductive Delivered (runner : Runner) (write : Write) (world told : World)
    (result : Except Fault Unit) (after : World) : Prop where
  | untold (looked : Looked world told) (same : after = told)
  | waiting (later : told.reactor.idle = false ∨ told.reactor.pending = false)
      (same : after = told)
  | flushed (idle : told.reactor.idle = true) (ended : Except Fault Unit)
      (ran : (Act.flush runner).run told = (ended, after)) (good : result = .ok () → ended = .ok ())
  | inTurn (alone : write.gathers = false) (looked : Looked world told) (dep : DepId)
      (ran : (Act.trigger runner dep).run told = (result, after))

theorem Looked.signalled {world after : World} (looked : Looked world after) :
    ∃ sent, after.reactor = world.reactor.signalAll sent := by
  obtain ⟨deps, same⟩ := looked.tracked
  exact ⟨_, same.trans (Reactor.trackAll_eq_signalAll world.reactor deps)⟩

/-- A write signals, and then what it has told is delivered. -/
theorem Write.delivered {runner : Runner} {write : Write} {world after : World}
    {result : Except Fault Unit} (ran : (write.perform runner).run world = (result, after)) :
    ∃ sent told, told.reactor = world.reactor.signalAll sent ∧
      told.listeners = world.listeners ∧ Delivered runner write world told result after := by
  cases alone : write.gathers with
  | false =>
      rcases (Write.tellsLast alone).told ran with looked | ⟨middle, dep, looked, told⟩ <;>
        obtain ⟨sent, same⟩ := looked.signalled
      · exact ⟨sent, after, same, looked.listeners, .untold looked rfl⟩
      · exact ⟨sent, middle, same, looked.listeners, .inTurn alone looked dep told⟩
  | true =>
      rcases (Write.gathered alone).gathered ran with looked | ⟨middle, inside, looked, each, batched⟩ <;>
        obtain ⟨before, same⟩ := looked.signalled
      · exact ⟨before, after, same, looked.listeners, .untold looked rfl⟩
      · obtain ⟨sent, told, ended, same', heard, ran'⟩ := Act.run_batch_signals each middle
        refine ⟨before ++ sent, told, ?_, heard.trans looked.listeners, ?_⟩
        · rw [same', same, Reactor.signalAll_append]
        rw [ran'] at batched
        split at batched
        case isTrue ready =>
          have idle : told.reactor.idle = true := ((Bool.and_eq_true _ _).mp ready).1
          rcases flushed : (Act.flush runner).run told with ⟨fault | _, last⟩ <;>
            rw [flushed] at batched <;> obtain ⟨rfl, rfl⟩ := Prod.mk.inj batched
          · exact .flushed idle _ flushed nofun
          · exact .flushed idle _ flushed fun _ => rfl
        case isFalse busy =>
          obtain ⟨-, rfl⟩ := Prod.mk.inj batched
          exact .waiting ((Bool.and_eq_false_iff).mp (Bool.eq_false_iff.mpr busy)) rfl

end ReactiveSchema
