import ReactiveSchema.Act

/-!
# Running effects

A change of tracked state queues the effects that have read it.  Outside any
batch the queues are worked off at once, effects that derive values first; in
a batch that waits for its outermost end.  The running effect never queues
itself.  Everything that is set for the time of a run, a batch or a flush is
set back on every way out.
-/

namespace ReactiveSchema.Act

variable {α : Type}

/-! ## Runs -/

/-- Set the effect that is running. -/
def setActiveEffect (effect : Option EffectId) : Act Unit :=
  modifyReactor fun reactor => { reactor with activeEffect := effect }

/-- Run `body` as part of a given effect, or of none. -/
def withActiveEffect (effect : Option EffectId) (body : Act α) : Act α := do
  let outer := (← get).reactor.activeEffect
  setActiveEffect effect
  ensuring (setActiveEffect outer) body

/-- Run `body` so that nothing subscribes to what it reads. -/
def untracked (body : Act α) : Act α :=
  withActiveEffect none body

/-- Run an effect.  One that was stopped does its work, but on nobody's behalf. -/
def runEffect (runner : Runner) (effect : EffectId) : Act Value := do
  let reactor := (← get).reactor
  match reactor.effects[effect]? with
  | none => return .none
  | some cell =>
      if cell.active then
        modifyReactor (·.beginRun effect)
        withActiveEffect (some effect) (runner.perform cell.body)
      else runner.perform cell.body

/-! ## Queues -/

/-- Run the effects that wait, as far as the limit allows. -/
def drain (runner : Runner) : Nat → Act Unit
  | 0 => throw .exhausted
  | limit + 1 => do
      match (← get).reactor.next? with
      | none => return ()
      | some (effect, rest) => do
          modifyReactor fun _ => rest
          if rest.isActive effect then
            let _ ← runEffect runner effect
          drain runner limit

/-- Set whether the queues are being worked off. -/
def setFlushing (flushing : Bool) : Act Unit :=
  modifyReactor fun reactor => { reactor with flushing }

/-- Note that a fault has cut something short. -/
def notingCut (body : Act α) : Act α :=
  tryCatch body fun fault => do
    modifyReactor (·.note .cutShort)
    throw fault

/-- Work the queues off. -/
def flush (runner : Runner) : Act Unit := do
  setFlushing true
  ensuring (setFlushing false) (notingCut (drain runner runner.flushLimit))

/-- Queue an effect, and work the queues off if nothing defers it. -/
def schedule (runner : Runner) (effect : EffectId) : Act Unit := do
  modifyReactor (·.enqueue effect)
  if (← get).reactor.idle then flush runner

/-- Schedule effects one after another, except for the running one. -/
def scheduleAll (runner : Runner) (current : Option EffectId) : List EffectId → Act Unit
  | [] => pure ()
  | effect :: rest => do
      if some effect != current then schedule runner effect
      scheduleAll runner current rest

/-- Tell that a piece of tracked state has changed. -/
def trigger (runner : Runner) (dep : DepId) : Act Unit := do
  let reactor := (← get).reactor
  modifyReactor (·.note (.told dep reactor.activeEffect))
  scheduleAll runner reactor.activeEffect (reactor.subscribersOf dep)

/-! ## Batches -/

/-- Enter a batch. -/
def enterBatch : Act Unit :=
  modifyReactor fun reactor => { reactor with batchDepth := reactor.batchDepth + 1 }

/-- Leave a batch; at the end of the outermost one the queues are worked off. -/
def leaveBatch (runner : Runner) : Act Unit := do
  modifyReactor fun reactor => { reactor with batchDepth := reactor.batchDepth - 1 }
  let reactor := (← get).reactor
  if reactor.idle && reactor.pending then flush runner

/-- Run `body` with all effects put off to its end. -/
def batch (runner : Runner) (body : Act α) : Act α := do
  enterBatch
  ensuring (leaveBatch runner) body

/-! ## Making and stopping effects -/

/-- A new effect that has not run and belongs to no group. -/
def newEffect (body : Body) (timing : Timing) : Act EffectId :=
  modifyGet fun world =>
    let (effect, reactor) := world.reactor.addEffect body timing false
    (effect, { world with reactor })

/-- A new effect that joins the active group. -/
def newMember (body : Body) (timing : Timing) : Act EffectId :=
  modifyGet fun world =>
    let (effect, reactor) := world.reactor.addEffect body timing true
    (effect, { world with reactor })

/-- Make an effect and run it for the first time. -/
def watch (runner : Runner) (body : Body) (timing : Timing) : Act EffectId := do
  let effect ← newMember body timing
  let _ ← runEffect runner effect
  return effect

/-- Stop an effect. -/
def stopEffect (effect : EffectId) : Act Unit :=
  modifyReactor (·.stop effect)

/-! ## Groups -/

/-- A new group of effects. -/
def newEffectScope : Act EffectScopeId :=
  modifyGet fun world =>
    let scopes := world.reactor.scopes
    (scopes.size,
      { world with reactor := { world.reactor with scopes := scopes.push ⟨[], true⟩ } })

/-- Set the group that new effects join. -/
def setActiveScope (scope : Option EffectScopeId) : Act Unit :=
  modifyReactor fun reactor => { reactor with activeScope := scope }

/-- Run `body` so that the effects it makes join a group. -/
def within (scope : EffectScopeId) (body : Act α) : Act α := do
  let outer := (← get).reactor.activeScope
  setActiveScope (some scope)
  ensuring (setActiveScope outer) body

/-- Stop the effects of a group. -/
def stopEffectScope (scope : EffectScopeId) : Act Unit :=
  modifyReactor (·.stopScope scope)

end ReactiveSchema.Act
