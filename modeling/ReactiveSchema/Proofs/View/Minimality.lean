import ReactiveSchema.Proofs.Reactive.UnreadWrite
import ReactiveSchema.Proofs.View.Shown

/-!
# Views are rendered no more than needed

A view is rendered again only if something is told to have changed that its last pass has read.
A write that changes no entry and no key set of that kind tells nothing of it by itself; what
runs in the course of the write may still do so.
-/

namespace ReactiveSchema

variable {world after : World} {id : ViewId} {view : View} {effect : EffectId}

/-! ## Views at rest -/

/-- A view is mounted, and the effect that renders it neither waits nor runs. -/
structure World.Presents (world : World) (id : ViewId) (view : View) : Prop where
  found : world.views[id]? = some view
  active : world.reactor.isActive view.renderEffect = true
  idle : ¬ Act.Waits world.reactor view.renderEffect
  apart : some view.renderEffect ≠ world.reactor.activeEffect

/-- What the last pass of a view has read. -/
def World.readBy (world : World) (view : View) : List DepId :=
  world.reactor.depsOf view.renderEffect

theorem World.Presents.asleep (presents : world.Presents id view)
    (linked : world.reactor.Linked) :
    world.reactor.Asleep (world.readBy view) view.renderEffect where
  idle := presents.idle
  apart := presents.apart
  only known := linked.noted known

end ReactiveSchema
