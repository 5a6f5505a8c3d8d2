import Mathlib.Data.List.Nodup
import ReactiveSchema.Proofs.Reactive.Kinds

/-!
# What the record tells

The record of what has happened, newest first, tells who runs, who has read what, and who is
to run because of what was told to have changed.  An agenda, that is the readers of tracked
state and the effects that wait, is carried on along the record alone.
-/

namespace ReactiveSchema

open Reactor (addNew mem_addNew nodup_addNew)

variable {readers others : DepId → List EffectId} {newer older events : List Event}
  {effect item : EffectId} {dep : DepId} {alive : EffectId → Bool} {timing : EffectId → Timing}

/-! ## Reading the record -/

/-- The effects that have read tracked state, after events that began with given readers. -/
def readersAfter (readers : DepId → List EffectId) : List Event → DepId → List EffectId
  | [], dep => readers dep
  | .began effect :: older, dep => (readersAfter readers older dep).filter (· != effect)
  | .read effect item :: older, dep =>
      if dep = item then addNew (readersAfter readers older dep) effect
      else readersAfter readers older dep
  | .told .. :: older, dep => readersAfter readers older dep
  | .cutShort :: older, dep => readersAfter readers older dep

/-- The effects that what is told triggers, one by one in the order of time. -/
def triggered (readers : DepId → List EffectId) : List Event → List EffectId
  | [] => []
  | .told dep running :: older =>
      triggered readers older ++ (readersAfter readers older dep).filter (some · != running)
  | .began _ :: older => triggered readers older
  | .read .. :: older => triggered readers older
  | .cutShort :: older => triggered readers older

/-- The effects that run, in the order of time. -/
def runsIn : List Event → List EffectId
  | [] => []
  | .began effect :: older => runsIn older ++ [effect]
  | .read .. :: older => runsIn older
  | .told .. :: older => runsIn older
  | .cutShort :: older => runsIn older

/-- The effect whose run began last. -/
def lastBegun : List Event → Option EffectId
  | [] => none
  | .began effect :: _ => some effect
  | .read .. :: older => lastBegun older
  | .told .. :: older => lastBegun older
  | .cutShort :: older => lastBegun older

/-- The effects in whose runs something is told to have changed. -/
def tellers : List Event → List EffectId
  | [] => []
  | .told .. :: older => (lastBegun older).toList ++ tellers older
  | .began _ :: older => tellers older
  | .read .. :: older => tellers older
  | .cutShort :: older => tellers older

/-- Everything that is read is read by an effect whose run has begun, or which ran before. -/
def OwnReads (running : Option EffectId) : List Event → Prop
  | [] => True
  | .read effect _ :: older =>
      (running = some effect ∨ .began effect ∈ older) ∧ OwnReads running older
  | .began _ :: older => OwnReads running older
  | .told .. :: older => OwnReads running older
  | .cutShort :: older => OwnReads running older

/-- Some effects, each of them once, in the order in which they come first. -/
def firsts (effects : List EffectId) : List EffectId :=
  effects.foldl addNew []

/-! ## Records in two parts -/

theorem readersAfter_append (readers : DepId → List EffectId) (newer older : List Event) :
    readersAfter readers (newer ++ older) = readersAfter (readersAfter readers older) newer := by
  funext dep
  induction newer with
  | nil => rfl
  | cons event rest ih =>
      cases event with
      | began | read | told | cutShort => simp only [List.cons_append, readersAfter, ih]

theorem triggered_append (readers : DepId → List EffectId) (newer older : List Event) :
    triggered readers (newer ++ older) =
      triggered readers older ++ triggered (readersAfter readers older) newer := by
  induction newer with
  | nil => exact (List.append_nil _).symm
  | cons event rest ih =>
      cases event with
      | began | read | cutShort => exact ih
      | told dep running =>
          simp only [List.cons_append, triggered, ih, readersAfter_append, List.append_assoc]

theorem runsIn_append (newer older : List Event) :
    runsIn (newer ++ older) = runsIn older ++ runsIn newer := by
  induction newer with
  | nil => exact (List.append_nil _).symm
  | cons event rest ih =>
      cases event with
      | began effect => simp only [List.cons_append, runsIn, ih, List.append_assoc]
      | read | told | cutShort => exact ih

theorem lastBegun_append (newer older : List Event) :
    lastBegun (newer ++ older) = (lastBegun newer).or (lastBegun older) := by
  induction newer with
  | nil => rfl
  | cons event rest ih =>
      cases event with
      | began => rfl
      | read | told | cutShort => exact ih

/-- Who tells in a later part of a record tells in the whole. -/
theorem mem_tellers_append_left (teller : effect ∈ tellers newer) :
    effect ∈ tellers (newer ++ older) := by
  induction newer with
  | nil => cases teller
  | cons event rest ih =>
      cases event with
      | began | read | cutShort => exact ih teller
      | told =>
          rw [List.cons_append, tellers, lastBegun_append]
          refine List.mem_append.mpr ((List.mem_append.mp teller).imp (fun last => ?_) ih)
          rw [Option.mem_toList.mp last]
          exact List.mem_singleton_self effect

theorem mem_tellers_append_right (teller : effect ∈ tellers older) :
    effect ∈ tellers (newer ++ older) := by
  induction newer with
  | nil => exact teller
  | cons event rest ih =>
      cases event with
      | began | read | cutShort => exact ih
      | told => exact List.mem_append_right _ ih

/-! ## Who runs, reads and is triggered -/

theorem mem_runsIn : effect ∈ runsIn events ↔ .began effect ∈ events := by
  induction events with
  | nil => simp [runsIn]
  | cons event rest ih =>
      cases event with
      | began => simp [runsIn, ih, or_comm]
      | read | told | cutShort => simp [runsIn, ih]

theorem lastBegun_of_runsIn_eq_nil (none : runsIn events = []) : lastBegun events = .none := by
  induction events with
  | nil => rfl
  | cons event rest ih =>
      cases event with
      | began effect =>
          exact absurd none (List.append_ne_nil_of_right_ne_nil _ (List.cons_ne_nil _ _))
      | read | told | cutShort => exact ih none

/-- What a single run tells, its effect tells. -/
theorem mem_tellers_of_run {running : Option EffectId} (alone : runsIn newer = [])
    (told : .told dep running ∈ newer) : effect ∈ tellers (newer ++ [.began effect]) := by
  induction newer with
  | nil => cases told
  | cons event rest ih =>
      cases event with
      | began => exact absurd alone (List.append_ne_nil_of_right_ne_nil _ (List.cons_ne_nil _ _))
      | read | cutShort => exact ih alone ((List.mem_cons.mp told).resolve_left nofun)
      | told =>
          have silent : lastBegun rest = none := lastBegun_of_runsIn_eq_nil alone
          rw [List.cons_append, tellers, lastBegun_append, silent]
          exact List.mem_append_left _ (List.mem_singleton_self effect)

namespace OwnReads

variable {running : Option EffectId}

theorem append (later : OwnReads running newer) (earlier : OwnReads running older) :
    OwnReads running (newer ++ older) := by
  induction newer with
  | nil => exact earlier
  | cons event rest ih =>
      cases event with
      | read => exact ⟨later.1.imp_right (List.mem_append_left _), ih later.2⟩
      | began | told | cutShort => exact ih later

theorem of_append (owned : OwnReads running (newer ++ older)) : OwnReads running older := by
  induction newer with
  | nil => exact owned
  | cons event rest ih =>
      cases event with
      | read => exact ih owned.2
      | began | told | cutShort => exact ih owned

/-- Where nobody ran before, it does not matter who might have. -/
theorem of_none (owned : OwnReads none events) : OwnReads running events := by
  induction events with
  | nil => trivial
  | cons event rest ih =>
      cases event with
      | read => exact ⟨.inr (owned.1.resolve_left nofun), ih owned.2⟩
      | began | told | cutShort => exact ih owned

/-- What is read in a run, its effect reads. -/
theorem of_run (owned : OwnReads (some effect) events) :
    OwnReads running (events ++ [.began effect]) := by
  induction events with
  | nil => trivial
  | cons event rest ih =>
      cases event with
      | read =>
          refine ⟨.inr (List.mem_append.mpr ?_), ih owned.2⟩
          refine owned.1.symm.imp_right fun own => ?_
          cases own
          exact List.mem_singleton_self _
      | began | told | cutShort => exact ih owned

theorem began (owned : OwnReads none events) (read : .read effect dep ∈ events) :
    .began effect ∈ events := by
  induction events with
  | nil => cases read
  | cons event rest ih =>
      cases event with
      | read =>
          rcases List.mem_cons.mp read with same | read
          · cases same
            exact List.mem_cons_of_mem _ (owned.1.resolve_left nofun)
          · exact List.mem_cons_of_mem _ (ih owned.2 read)
      | began | told | cutShort =>
          exact List.mem_cons_of_mem _ (ih owned ((List.mem_cons.mp read).resolve_left nofun))

end OwnReads

/-- Who has read has read before or among the events. -/
theorem mem_readersAfter (reads : effect ∈ readersAfter readers events dep) :
    effect ∈ readers dep ∨ .read effect dep ∈ events := by
  induction events with
  | nil => exact .inl reads
  | cons event rest ih =>
      have later (known : effect ∈ readersAfter readers rest dep) :
          effect ∈ readers dep ∨ .read effect dep ∈ event :: rest :=
        (ih known).imp_right (List.mem_cons_of_mem _)
      cases event with
      | began => exact later (List.mem_filter.mp reads).1
      | told | cutShort => exact later reads
      | read other item =>
          rw [readersAfter] at reads
          split at reads
          case isTrue same =>
            rcases mem_addNew.mp reads with known | rfl
            · exact later known
            · exact .inr (same ▸ List.mem_cons_self)
          case isFalse => exact later reads

/-- Whom a telling triggers has read what is told, and is not running. -/
theorem mem_triggered : effect ∈ triggered readers events ↔
    ∃ newer dep running older, events = newer ++ .told dep running :: older ∧
      effect ∈ readersAfter readers older dep ∧ some effect ≠ running := by
  induction events with
  | nil =>
      refine ⟨nofun, ?_⟩
      rintro ⟨newer, dep, running, older, split, -⟩
      exact absurd split.symm (List.append_ne_nil_of_right_ne_nil _ (List.cons_ne_nil _ _))
  | cons event rest ih =>
      have later (known : effect ∈ triggered readers rest) :
          ∃ newer dep running older, event :: rest = newer ++ .told dep running :: older ∧
            effect ∈ readersAfter readers older dep ∧ some effect ≠ running := by
        obtain ⟨newer, dep, running, older, rfl, due⟩ := ih.mp known
        exact ⟨event :: newer, dep, running, older, rfl, due⟩
      have earlier {newer older : List Event} {dep : DepId} {running : Option EffectId}
          (split : event :: rest = newer ++ .told dep running :: older)
          (due : effect ∈ readersAfter readers older dep ∧ some effect ≠ running) :
          effect ∈ triggered readers rest ∨ event = .told dep running ∧ rest = older := by
        cases newer with
        | nil =>
            obtain ⟨now, rest⟩ := List.cons.inj split
            exact .inr ⟨now, rest⟩
        | cons first newer =>
            obtain ⟨-, rest⟩ := List.cons.inj split
            exact .inl (ih.mpr ⟨newer, dep, running, older, rest, due⟩)
      cases event with
      | began | read | cutShort =>
          refine ⟨later, ?_⟩
          rintro ⟨newer, dep, running, older, split, due⟩
          exact (earlier split due).resolve_right nofun
      | told item current =>
          rw [triggered, List.mem_append, List.mem_filter, bne_iff_ne]
          constructor
          · rintro (known | now)
            · exact later known
            · exact ⟨[], item, current, rest, rfl, now⟩
          · rintro ⟨newer, dep, running, older, split, due⟩
            rcases earlier split due with known | ⟨now, same⟩
            · exact .inl known
            · cases now
              exact .inr (same ▸ due)

/-- Who is triggered has read, before or among the events, what is told among them. -/
theorem told_of_mem_triggered (due : effect ∈ triggered readers events) :
    ∃ dep running, .told dep running ∈ events ∧
      (effect ∈ readers dep ∨ .read effect dep ∈ events) := by
  obtain ⟨newer, dep, running, older, rfl, reads, -⟩ := mem_triggered.mp due
  have told : .told dep running ∈ newer ++ .told dep running :: older :=
    List.mem_append_right _ List.mem_cons_self
  refine ⟨dep, running, told, (mem_readersAfter reads).imp_right fun read => ?_⟩
  exact List.mem_append_right _ (List.mem_cons_of_mem _ read)

theorem triggered_of_untold (untold : ∀ dep running, .told dep running ∉ events) :
    triggered readers events = [] := by
  refine List.eq_nil_iff_forall_not_mem.mpr fun effect due => ?_
  obtain ⟨dep, running, told, -⟩ := told_of_mem_triggered due
  exact untold dep running told

/-! ## Waiting once -/

theorem filter_addNew (p : EffectId → Bool) (items : List EffectId) (item : EffectId) :
    (addNew items item).filter p =
      if p item then addNew (items.filter p) item else items.filter p := by
  unfold addNew
  by_cases known : item ∈ items
  · by_cases holds : p item = true
    · simp [known, holds]
    · simp [known, holds]
  · by_cases holds : p item = true
    · simp [known, holds]
    · simp [known, holds]

theorem filter_addAll (p : EffectId → Bool) (items added : List EffectId) :
    (added.foldl addNew items).filter p = (added.filter p).foldl addNew (items.filter p) := by
  induction added generalizing items with
  | nil => rfl
  | cons item rest ih =>
      rw [List.foldl_cons, ih, filter_addNew]
      by_cases holds : p item = true
      · rw [if_pos holds, List.filter_cons_of_pos holds, List.foldl_cons]
      · rw [if_neg holds, List.filter_cons_of_neg holds]

theorem mem_addAll {items added : List EffectId} :
    effect ∈ added.foldl addNew items ↔ effect ∈ items ∨ effect ∈ added := by
  induction added generalizing items with
  | nil => simp
  | cons item rest ih => rw [List.foldl_cons, ih, mem_addNew, List.mem_cons, or_assoc]

theorem nodup_addAll {items : List EffectId} (once : items.Nodup) (added : List EffectId) :
    (added.foldl addNew items).Nodup := by
  induction added generalizing items with
  | nil => exact once
  | cons item rest ih => exact ih (nodup_addNew once item)

theorem mem_firsts {effects : List EffectId} : effect ∈ firsts effects ↔ effect ∈ effects := by
  unfold firsts
  rw [mem_addAll]
  exact or_iff_right List.not_mem_nil

theorem nodup_firsts (effects : List EffectId) : (firsts effects).Nodup :=
  nodup_addAll List.nodup_nil effects

theorem filter_firsts (p : EffectId → Bool) (effects : List EffectId) :
    (firsts effects).filter p = firsts (effects.filter p) :=
  filter_addAll p [] effects

/-! ## Among some effects -/

theorem readersAfter_congr
    (same : ∀ dep, (readers dep).filter alive = (others dep).filter alive) (events : List Event)
    (dep : DepId) :
    (readersAfter readers events dep).filter alive =
      (readersAfter others events dep).filter alive := by
  induction events with
  | nil => exact same dep
  | cons event rest ih =>
      cases event with
      | began effect => rw [readersAfter, readersAfter, List.filter_comm, ih, List.filter_comm]
      | told | cutShort => exact ih
      | read effect item =>
          rw [readersAfter, readersAfter]
          split
          case isTrue => rw [filter_addNew, filter_addNew, ih]
          case isFalse => exact ih

theorem triggered_congr
    (same : ∀ dep, (readers dep).filter alive = (others dep).filter alive) (events : List Event) :
    (triggered readers events).filter alive = (triggered others events).filter alive := by
  induction events with
  | nil => rfl
  | cons event rest ih =>
      cases event with
      | began | read | cutShort => exact ih
      | told dep running =>
          have now : ((readersAfter readers rest dep).filter (some · != running)).filter alive =
              ((readersAfter others rest dep).filter (some · != running)).filter alive := by
            rw [List.filter_comm, readersAfter_congr same, List.filter_comm]
          rw [triggered, triggered, List.filter_append, List.filter_append, ih, now]

/-! ## Agendas -/

/-- Who has read tracked state, and who waits to run: early, to derive values, or late. -/
structure Agenda where
  readers : DepId → List EffectId
  early : List EffectId
  late : List EffectId

namespace Agenda

variable {agenda other : Agenda}

/-- The agenda of some effects alone. -/
def only (alive : EffectId → Bool) (agenda : Agenda) : Agenda :=
  ⟨fun dep => (agenda.readers dep).filter alive, agenda.early.filter alive,
    agenda.late.filter alive⟩

/-- Some effects, among those that run at a given time. -/
def ofTiming (timing : EffectId → Timing) (time : Timing) (effects : List EffectId) :
    List EffectId :=
  effects.filter fun effect => decide (timing effect = time)

/-- An agenda after events in which nobody was taken off the queues. -/
def after (timing : EffectId → Timing) (agenda : Agenda) (events : List Event) : Agenda where
  readers := readersAfter agenda.readers events
  early := (ofTiming timing .pre (triggered agenda.readers events)).foldl addNew agenda.early
  late := (ofTiming timing .post (triggered agenda.readers events)).foldl addNew agenda.late

theorem after_append (timing : EffectId → Timing) (agenda : Agenda) (newer older : List Event) :
    agenda.after timing (newer ++ older) = (agenda.after timing older).after timing newer := by
  simp only [after, ofTiming, readersAfter_append, triggered_append, List.filter_append,
    List.foldl_append]

/-- What happens carries the agendas of the same effects on to the same. -/
theorem only_after_congr (same : agenda.only alive = other.only alive) (events : List Event) :
    (agenda.after timing events).only alive = (other.after timing events).only alive := by
  have readers (dep : DepId) :
      (agenda.readers dep).filter alive = (other.readers dep).filter alive :=
    congrFun (congrArg Agenda.readers same) dep
  have due (time : Timing) :
      (ofTiming timing time (triggered agenda.readers events)).filter alive =
        (ofTiming timing time (triggered other.readers events)).filter alive := by
    unfold ofTiming
    rw [List.filter_comm, triggered_congr readers, List.filter_comm]
  have early : agenda.early.filter alive = other.early.filter alive := congrArg Agenda.early same
  have late : agenda.late.filter alive = other.late.filter alive := congrArg Agenda.late same
  unfold only after
  rw [Agenda.mk.injEq]
  refine ⟨funext (readersAfter_congr readers events), ?_, ?_⟩
  · rw [filter_addAll, filter_addAll, due, early]
  · rw [filter_addAll, filter_addAll, due, late]

end Agenda

end ReactiveSchema
