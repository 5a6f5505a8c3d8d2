import ReactiveSchema.Outlook

/-!
# Acting on the world

A computation in the world may run effects, at whose turn it is decided what
is run.  It looks at memory on behalf of the running effect.
-/

namespace ReactiveSchema

/-- A computation in the world. -/
abbrev Act := ExceptT Fault (StateM World)

/-- How an effect's body is carried out, and how many effects one flush may run. -/
structure Runner where
  flushLimit : Nat
  perform : Body → Act Value

namespace Act

variable {α : Type}

/-- Fail for an ordinary cause. -/
def fail (cause : Cause) : Act α :=
  throw (.failure cause)

/-- Change the effects. -/
def modifyReactor (change : Reactor Body → Reactor Body) : Act Unit :=
  modify fun world => { world with reactor := change world.reactor }

/--
Look at memory, and at handled things as they are now.  The running effect
subscribes to the tracked state that is read, also when looking ends in a fault.
-/
def observe (look : Observe α) : Act α := ExceptT.mk fun world =>
  let (result, memory) := look.run { world.memory with outlook := world.outlook }
  let reads := memory.reads.reverse
  let memory := { memory with reads := [], outlook := Memory.empty.outlook }
  (result, { world with memory, reactor := world.reactor.trackAll reads })

/-- Add a closure. -/
def newClosure (closure : Closure) : Act Value :=
  modifyGet fun world =>
    (.handle .closure world.closures.size,
      { world with closures := world.closures.push closure })

/-- Run `body`, then `leave` on every way out; a fault of `leave` wins. -/
def ensuring (leave : Act Unit) (body : Act α) : Act α := ExceptT.mk fun world =>
  let (result, after) := body.run world
  let (left, last) := leave.run after
  match left with
  | .ok _ => (result, last)
  | .error fault => (.error fault, last)

end Act

end ReactiveSchema
