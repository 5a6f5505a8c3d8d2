import ReactiveSchema.Proofs.Reactive.Linked
import ReactiveSchema.Proofs.Reactive.Spared

/-!
# Effects that nothing wakes

While queued effects are put off, an effect that neither waits nor runs goes on so, whatever
programs do: it is queued only if something is told to have changed that it has read.
-/

namespace ReactiveSchema

variable {reads : List DepId} {reader effect : EffectId}

namespace Reactor

variable {before middle after reactor : Reactor Body} {history : List Event} {dep : DepId}

/-- An effect neither waits nor runs, and has read no more than some tracked state. -/
structure Asleep (reads : List DepId) (reader : EffectId) (reactor : Reactor Body) : Prop where
  idle : ¬ Act.Waits reactor reader
  apart : some reader ≠ reactor.activeEffect
  only {dep : DepId} : reader ∈ reactor.subscribersOf dep → dep ∈ reads

/-- Since a point of history some tracked state was not told, and an effect has not run. -/
structure Undisturbed (reads : List DepId) (reader : EffectId) (history : List Event)
    (reactor : Reactor Body) : Prop where
  untold {dep : DepId} {running : Option EffectId} :
    Since history reactor (.told dep running) → dep ∉ reads
  unrun : ¬ Since history reactor (.began reader)

theorem Undisturbed.of_same (same : after.history = before.history) :
    Undisturbed reads reader before.history after where
  untold told := absurd told (not_since same)
  unrun := not_since same

theorem Undisturbed.refl (reactor : Reactor Body) :
    Undisturbed reads reader reactor.history reactor :=
  have same : reactor.history = reactor.history := rfl
  .of_same same

/-- What is undisturbed for a long time is so in each part of it. -/
theorem Undisturbed.parts (undisturbed : Undisturbed reads reader before.history after)
    (first : before.history <:+ middle.history) (second : middle.history <:+ after.history) :
    Undisturbed reads reader before.history middle ∧
      Undisturbed reads reader middle.history after :=
  ⟨⟨fun told => undisturbed.untold (told.later second),
      fun began => undisturbed.unrun (began.later second)⟩,
    fun told => undisturbed.untold (told.earlier first),
    fun began => undisturbed.unrun (began.earlier first)⟩

theorem Undisturbed.trans (first : Undisturbed reads reader before.history middle)
    (second : Undisturbed reads reader middle.history after)
    (older : before.history <:+ middle.history) (newer : middle.history <:+ after.history) :
    Undisturbed reads reader before.history after where
  untold told := (told.cases older newer).elim first.untold second.untold
  unrun began := (began.cases older newer).elim first.unrun second.unrun

/-- As long as nothing disturbs it, an effect sleeps on. -/
structure SleepsOn (reads : List DepId) (reader : EffectId) (before after : Reactor Body) : Prop
    extends Kept before after where
  asleep : Undisturbed reads reader before.history after →
    before.Asleep reads reader → after.Asleep reads reader

namespace SleepsOn

theorem refl (reactor : Reactor Body) : SleepsOn reads reader reactor reactor :=
  ⟨.refl reactor, fun _ => id⟩

theorem trans (first : SleepsOn reads reader before middle)
    (second : SleepsOn reads reader middle after) : SleepsOn reads reader before after where
  toKept := first.toKept.trans second.toKept
  asleep undisturbed asleep :=
    have parts := undisturbed.parts first.older second.older
    second.asleep parts.2 (first.asleep parts.1 asleep)

end SleepsOn

/-- The effect that runs for a time is not the one that sleeps. -/
theorem SleepsOn.asEffect {running : Option EffectId} (apart : some reader ≠ running)
    (sleeps : SleepsOn reads reader (before.asEffect running) after) :
    SleepsOn reads reader before (after.asEffect before.activeEffect) where
  toKept := ⟨sleeps.older, sleeps.batchDepth, sleeps.flushing, rfl, sleeps.activeScope⟩
  asleep undisturbed asleep :=
    have inside := sleeps.asleep ⟨undisturbed.untold, undisturbed.unrun⟩
      ⟨asleep.idle, apart, asleep.only⟩
    ⟨inside.idle, asleep.apart, inside.only⟩

end Reactor

/-! ## Programs -/

namespace Act

variable {α : Type} {runner : Runner} {world : World}

end Act

end ReactiveSchema
