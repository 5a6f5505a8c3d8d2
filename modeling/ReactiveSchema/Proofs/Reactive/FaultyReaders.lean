import ReactiveSchema.Proofs.Reactive.SingleWrite
import ReactiveSchema.Proofs.Reactive.Spared

/-!
# Readers that fail

When a reader of what was written raises a fault, the fault reaches the writer.
A write of a map has queued all readers by then, and so has every write that is
made while effects are put off.  A write of a cell or a list runs its readers one
after another, and a fault of one of them costs those after it their turn.
-/

namespace ReactiveSchema

/-! ## Deciding what has happened -/

namespace Reactor

variable {β : Type} {history : List Event} {reactor : Reactor β} {event : Event}

theorem since_iff :
    Since history reactor event ↔ history <:+ reactor.history ∧
      event ∈ reactor.history.take (reactor.history.length - history.length) := by
  constructor
  · rintro ⟨newer, same, known⟩
    rw [same, List.length_append, Nat.add_sub_cancel, List.take_left]
    exact ⟨List.suffix_append newer history, known⟩
  · rintro ⟨⟨newer, same⟩, known⟩
    rw [← same, List.length_append, Nat.add_sub_cancel, List.take_left] at known
    exact ⟨newer, same.symm, known⟩

instance (history : List Event) (reactor : Reactor β) (event : Event) :
    Decidable (Since history reactor event) :=
  decidable_of_iff' _ since_iff

instance (history : List Event) (reactor : Reactor β) (effect : EffectId) :
    Decidable (Minded history reactor effect) :=
  inferInstanceAs (Decidable (_ ∨ _))

end Reactor

/-! ## Turns of the readers -/

/--
How readers of what a write has told get their turn, given those that do not: later, by one
flush, or one after another as far as no fault ends it.
-/
inductive Turns (runner : Runner) (told : World) (result : Except Fault Unit) (after : World) :
    List EffectId → Prop where
  | later (same : after = told) : Turns runner told result after []
  | atOnce (ended : Except Fault Unit) (ran : (Act.flush runner).run told = (ended, after)) :
      Turns runner told result after []
  | inTurn (dep : DepId) (reached missed : List EffectId)
      (readers : told.reactor.subscribersOf dep = reached ++ missed)
      (ran : (Act.scheduleAll runner told.reactor.activeEffect reached).run told = (result, after)) :
      Turns runner told result after missed

/--
No effect begins to run before a write has told what it changes.  When the write ends, be it in
a fault, each active reader of what was told meanwhile, but for the running effect, waits or
has begun to run, or is among those that are missed.
-/
structure Spares (runner : Runner) (world told : World) (result : Except Fault Unit)
    (after : World) (missed : List EffectId) : Prop where
  unrun (effect : EffectId) :
    ¬ Reactor.Since world.reactor.history told.reactor (.began effect)
  heeded {dep : DepId} {running : Option EffectId} {effect : EffectId} :
    Reactor.Since world.reactor.history after.reactor (.told dep running) →
      world.reactor.isActive effect = true → effect ∈ world.reactor.subscribersOf dep →
        some effect ≠ world.reactor.activeEffect →
          Reactor.Minded world.reactor.history after.reactor effect ∨ effect ∈ missed
  turns : Turns runner told result after missed

variable {flushLimit nesting : Nat} {write : Write} {world after : World}
  {result : Except Fault Unit}

/--
A write of a map costs no reader its update, however its readers fail, and neither does a
write that is made while effects are put off.  A write of a cell or a list ends as if those
that are missed had not subscribed; it misses none unless one of its readers fails.
-/
theorem faults_spare_updates
    (ran : (write.perform (.bounded flushLimit nesting)).run world = (result, after)) :
    ∃ told missed, Spares (.bounded flushLimit nesting) world told result after missed ∧
      (write.gathers = true ∨ world.reactor.idle = false ∨ result = .ok () → missed = []) := by
  have performs := (respected_bounded_mindsWorld flushLimit nesting).perform
  obtain ⟨sent, told, same, -, delivered⟩ := Write.delivered ran
  have unrun (effect : EffectId) :
      ¬ Reactor.Since world.reactor.history told.reactor (.began effect) :=
    same ▸ Reactor.not_began_signalAll world.reactor sent
  have minds : Reactor.Minds world.reactor told.reactor :=
    same ▸ Act.minds_signalAll world.reactor sent
  have heeds : Reactor.Heeds world.reactor told.reactor :=
    same ▸ Act.heeds_signalAll world.reactor sent
  have later (ended : after = told) :
      ∃ told missed, Spares (.bounded flushLimit nesting) world told result after missed ∧
        (write.gathers = true ∨ world.reactor.idle = false ∨ result = .ok () → missed = []) := by
    subst ended
    refine ⟨after, [], ⟨unrun, fun since active reads apart => .inl ?_, .later rfl⟩, fun _ => rfl⟩
    exact heeds.minded since (Reactor.known_of_isActive active) reads apart
  cases delivered with
  | untold _ ended | waiting _ ended => exact later ended
  | flushed idle ended flushed good =>
      obtain ⟨minds', heeds'⟩ := Act.minds_flush performs (Act.still_of_idle idle)
      rw [flushed] at minds' heeds'
      have heeds := Reactor.Heeds.trans minds heeds minds' heeds'
      refine ⟨told, [], ⟨unrun, fun since active reads apart => .inl ?_, .atOnce ended flushed⟩,
        fun _ => rfl⟩
      exact heeds.minded since (Reactor.known_of_isActive active) reads apart
  | inTurn alone _ dep turned =>
      rw [Act.run_trigger] at turned
      obtain ⟨minds', heeds', reached, missed, readers, all, ran, turns⟩ :=
        Act.minds_scheduleAll performs _ _ turned
      have noted : told.reactor.history <:+
          (told.reactor.note (.told dep told.reactor.activeEffect)).history := List.suffix_cons _ _
      refine ⟨told.withReactor (·.note (.told dep told.reactor.activeEffect)), missed,
        ⟨fun effect began => ?_, fun {item running effect} since active reads apart => ?_,
          .inTurn dep reached missed readers ran⟩, fun spared => all ?_⟩
      · rcases began.cases minds.older noted with early | now
        · exact unrun effect early
        · cases Reactor.eq_of_since_note now
      · have known := Reactor.known_of_isActive active
        have known' := Nat.lt_of_lt_of_le known minds.size
        have apart' : some effect ≠ told.reactor.activeEffect := by
          rw [minds.activeEffect]
          exact apart
        have reads' : effect ∈ told.reactor.subscribersOf item :=
          same ▸ (Reactor.subscribersOf_signalAll sent apart).mpr reads
        have older := minds.older.trans noted
        rcases since.cases older minds'.older with early | later
        · rcases early.cases minds.older noted with early | now
          · have minded := (heeds.minded early known reads apart).note
              (.told dep told.reactor.activeEffect)
            exact .inl (minds'.minded known' older minded)
          · cases Reactor.eq_of_since_note now
            rw [readers] at reads'
            refine (List.mem_append.mp reads').imp_left fun turn => ?_
            exact (turns effect turn known' apart').earlier older
        · exact .inl ((heeds'.minded later known' reads' apart').earlier older)
      · rcases spared with gathers | busy | good
        · rw [alone] at gathers
          cases gathers
        · have busy : told.reactor.idle = false := minds.toKept.idle.trans busy
          exact (Prod.mk.inj (turned.symm.trans (Act.run_scheduleAll_busy _ _ busy))).1
        · exact good

/-- An effect that fails once a cell or an entry of a map is 1, and another reader of both. -/
def failing : List Action :=
  let cell := .operate .getRef [.named "cell"]
  let entry := .operate .at [.named "map", .literal (.str "key")]
  let failAt (value : Action) : Action :=
    .choose (.operate .equal [value, .literal (.int 1)]) (.raise (.literal (.str "failed")))
      (.literal .none)
  [.assign "cell" (.operate .newRef [.literal (.int 0)]),
    .assign "map" (.operate .makeLive [.literal (.map [(.str "key", .int 0)])]),
    .effect "first" .pre true [failAt cell, failAt entry],
    .effect "second" .pre true [cell, entry]]

def failingWorld : World :=
  (Session.steps (.bounded 4 2) failing .empty).2

/-- The world after a write, which is cut short when the first effect fails. -/
def afterFailing (write : Write) : World :=
  ((write.perform (.bounded 4 2)).run failingWorld).2

theorem run_afterFailing (write : Write) :
    (write.perform (.bounded 4 2)).run failingWorld =
      (((write.perform (.bounded 4 2)).run failingWorld).1, afterFailing write) :=
  rfl

theorem faults_spare_updates_failing :
    (∃ told result missed, Spares (.bounded 4 2) failingWorld told result
      (afterFailing (.content 0 (.int 1))) missed ∧ 1 ∈ missed) ∧
    ∃ told result, Spares (.bounded 4 2) failingWorld told result
      (afterFailing (.entry 0 (.str "key") (.int 1))) [] ∧
        1 ∈ (afterFailing (.entry 0 (.str "key") (.int 1))).reactor.preQueue := by
  constructor
  · obtain ⟨told, missed, spares, -⟩ :=
      faults_spare_updates (run_afterFailing (.content 0 (.int 1)))
    refine ⟨told, _, missed, spares, ?_⟩
    have since : Reactor.Since failingWorld.reactor.history
        (afterFailing (.content 0 (.int 1))).reactor (.told 0 none) := by decide +kernel
    refine (spares.heeded since ?_ ?_ ?_).resolve_left ?_
    all_goals decide +kernel
  · obtain ⟨told, missed, spares, all⟩ :=
      faults_spare_updates (run_afterFailing (.entry 0 (.str "key") (.int 1)))
    cases all (.inl rfl)
    exact ⟨told, _, spares, by decide +kernel⟩

end ReactiveSchema
