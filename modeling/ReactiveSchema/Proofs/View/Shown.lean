import ReactiveSchema.Proofs.Act.Elementary
import ReactiveSchema.Proofs.Act.TidyPrograms
import ReactiveSchema.Proofs.View.Unmount

/-!
# What views show

A view shows the output of its last pass, and a pass is a run of the effect that renders it.
So as long as that effect begins no run, the view shows the same, whatever programs do.
-/

namespace ReactiveSchema

variable {id : ViewId} {effect : EffectId}

/-! ## What lasts -/

namespace Reactor

/-- History goes on, effects do what they did, and those that were stopped stay as they were. -/
structure Lasts (before after : Reactor Body) : Prop where
  older : before.history <:+ after.history
  kinds {effect : EffectId} {kind : Body × Timing} :
    before.kindOf effect = some kind → after.kindOf effect = some kind
  retires : Retires before after

variable {before after : Reactor Body}

/-- What is active was active before. -/
theorem Lasts.active (lasts : Lasts before after) {kind : Body × Timing}
    (known : before.kindOf effect = some kind) (active : after.isActive effect = true) :
    before.isActive effect = true := by
  obtain ⟨cell, found, -⟩ := Option.map_eq_some_iff.mp known
  unfold isActive at active ⊢
  rw [found]
  cases alive : cell.active with
  | true => exact alive
  | false =>
      rw [lasts.retires effect cell found alive, Option.any_some, alive] at active
      cases active

end Reactor

/-- Only one effect renders a view. -/
def World.RenderedBy (world : World) (id : ViewId) (effect : EffectId) : Prop :=
  ∀ other timing, world.reactor.kindOf other = some (.render id, timing) → other = effect

/-- The one effect that renders a view stays active and begins no run. -/
structure Unrendered (id : ViewId) (effect : EffectId) (before after : World) : Prop where
  known : (before.reactor.kindOf effect).isSome = true
  sole : after.RenderedBy id effect
  active : after.reactor.isActive effect = true
  unrun : ¬ Reactor.Since before.reactor.history after.reactor (.began effect)

/-- A view shows the same for as long as it is not rendered. -/
structure Shows (id : ViewId) (effect : EffectId) (before after : World) : Prop where
  lasts : Reactor.Lasts before.reactor after.reactor
  shown : Unrendered id effect before after →
    ∀ shown, before.shownBy id = some shown → after.shownBy id = some shown

theorem Unrendered.parts {before middle after : World}
    (unrendered : Unrendered id effect before after)
    (first : Reactor.Lasts before.reactor middle.reactor)
    (second : Reactor.Lasts middle.reactor after.reactor) :
    Unrendered id effect before middle ∧ Unrendered id effect middle after := by
  obtain ⟨kind, known⟩ := Option.isSome_iff_exists.mp unrendered.known
  have known := first.kinds known
  constructor
  case left =>
    exact ⟨unrendered.known, fun other timing renders => unrendered.sole other timing
      (second.kinds renders), second.active known unrendered.active,
      fun began => unrendered.unrun (began.later second.older)⟩
  case right =>
    exact ⟨Option.isSome_iff_exists.mpr ⟨kind, known⟩, unrendered.sole, unrendered.active,
      fun began => unrendered.unrun (began.earlier first.older)⟩

theorem Shows.of_views {before after : World} (lasts : Reactor.Lasts before.reactor after.reactor)
    (same : after.views = before.views) : Shows id effect before after :=
  ⟨lasts, fun _ => World.ShowsOn.of_views same id⟩

namespace Act

variable {α : Type} {runner : Runner}

section Performing

variable (lasting : ∀ body, Along (Elementary.InWorld Reactor.Lasts) (runner.perform body))
  (performs : ∀ body, body ≠ .render id → Along (Shows id effect) (runner.perform body))
include lasting performs

end Performing

end Act

end ReactiveSchema
