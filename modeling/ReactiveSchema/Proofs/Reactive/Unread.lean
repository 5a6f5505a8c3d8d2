import ReactiveSchema.Proofs.Observe.ScopeLooks
import ReactiveSchema.Proofs.Reactive.Asleep
import ReactiveSchema.Proofs.Reactive.PlainRuns

/-!
# Changes of what was not read

A write of a map tells no more than the key and the key set that it changes, and a resolving
effect tells no more than its cell, and only if that holds something else now.  So an effect
sleeps on through a flush in which all runs leave alone what it has read.
-/

namespace ReactiveSchema

variable {reads : List DepId} {reader effect : EffectId} {runner : Runner}
  {world after : World} {flushLimit nesting : Nat}

/-! ## The same thing -/

namespace Reactor

variable {reactor : Reactor Body}

theorem undisturbed_signal (signal : Signal)
    (spared : ∀ dep, signal = .told dep → dep ∉ reads) :
    Undisturbed reads reader reactor.history (reactor.signal signal) where
  untold {dep _} told := by
    rcases since_signal told with ⟨_, _, same⟩ | ⟨dep, known, same⟩
    · cases same
    · cases same
      exact spared _ known
  unrun := not_began_signalAll reactor [signal]

theorem undisturbed_trackAll (deps : List DepId) :
    Undisturbed reads reader reactor.history (reactor.trackAll deps) := by
  induction deps generalizing reactor with
  | nil => exact .refl reactor
  | cons dep rest ih =>
      have first : Undisturbed reads reader reactor.history (reactor.signal (.read dep)) :=
        undisturbed_signal (.read dep) nofun
      exact first.trans ih (kept_signal reactor (.read dep)).older
        (keeps_trackAll (reactor.track dep) rest).older

end Reactor

/-- From one world to another an effect is left undisturbed, while effects are put off. -/
structure Leaves (reads : List DepId) (reader : EffectId) (before after : World) : Prop
    extends Reactor.Kept before.reactor after.reactor where
  undisturbed : Reactor.Undisturbed reads reader before.reactor.history after.reactor

theorem composable_leaves : Composable (Leaves reads reader) where
  refl world := ⟨.refl _, .refl world.reactor⟩
  trans first second := ⟨first.toKept.trans second.toKept,
    first.undisturbed.trans second.undisturbed first.older second.older⟩

namespace Act

variable {α : Type}

theorem leaves_observe (look : Observe α) : Along (Leaves reads reader) (observe look) :=
  fun world =>
    ⟨(Reactor.keeps_trackAll world.reactor _).toKept, Reactor.undisturbed_trackAll _⟩

/-- Telling what was not read disturbs nobody, while effects are put off. -/
theorem leaves_trigger {dep : DepId} (unread : dep ∉ reads)
    (busy : world.reactor.idle = false) :
    Leaves reads reader world ((trigger runner dep).run world).2 := by
  rw [run_trigger_busy dep busy]
  refine ⟨Reactor.kept_signal world.reactor (.told dep), ?_⟩
  exact Reactor.undisturbed_signal (.told dep) fun _ same => (Signal.told.inj same) ▸ unread

/-! ## Cells -/

end Act

/-! ## Runs -/

/-- Does an event neither tell some tracked state nor begin a run of an effect? -/
def Event.spares (reads : List DepId) (reader : EffectId) : Event → Bool
  | told dep _ => !reads.contains dep
  | began effect => effect != reader
  | read .. | cutShort => true

namespace Act

end Act

end ReactiveSchema
