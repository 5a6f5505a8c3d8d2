import ReactiveSchema.Scope.Path

/-!
# Iteration frames

An evaluation pass has a stack of frames, one for each iteration that is under
way.  A token is looked up in them before anything else, innermost first.  A
frame is taken off again on every way out of its iteration.
-/

namespace ReactiveSchema.Observe

variable {α : Type}

/-- The evaluation pass that is under way. -/
def context? : Observe (Option EvaluationContext) := do
  return (← get).context

/-- Replace the evaluation pass. -/
def setContext (context : Option EvaluationContext) : Observe Unit :=
  modify fun memory => { memory with context }

/-- The value of a token in frames. -/
def lookupFrames (frames : List Value) (token : String) : Observe Value :=
  if frames.isEmpty then pure .missing else findValue frames (splitToken token)

/-- The value that a token takes: the one in a frame, or else the one given. -/
def checkScope (value : Value) (token : String) : Observe Value := do
  match ← context? with
  | none => return value
  | some context =>
      match ← lookupFrames context.frames token with
      | .missing => return value
      | found => return found

/-- Put a frame on the stack, where it stays until it is taken off. -/
def pushFrame (bindings : Value) : Observe Unit := do
  match ← context? with
  | none => return ()
  | some context => setContext (some { context with frames := bindings :: context.frames })

/-- Keep the depth that was reached, if no pass was deeper. -/
def noteDepth : Observe Unit := do
  match ← context? with
  | none => return ()
  | some context =>
      let maxDepth := max context.maxDepth context.frames.length
      setContext (some { context with maxDepth })

/-- Take the innermost frame off again, which has to be the one that was put on at a depth. -/
def popFrame (bindings : Value) (depth : Nat) : Observe Unit := do
  match ← context? with
  | none => return ()
  | some context =>
      match context.frames with
      | [] => fail (.outOfRange "pop from empty list")
      | top :: rest => do
          setContext (some { context with frames := rest })
          if top.identical bindings && rest.length == depth then return ()
          else fail .frameOrder

/-- The number of frames. -/
def frameDepth : Observe Nat := do
  return ((← context?).map (·.frames.length)).getD 0

/-- Look inside one more frame. -/
def withFrame (bindings : Value) (body : Observe α) : Observe α := do
  let depth ← frameDepth
  pushFrame bindings
  noteDepth
  try body finally popFrame bindings depth

/-- Look within a new evaluation pass. -/
def withFreshContext (body : Observe α) : Observe α := do
  let outer ← context?
  setContext (some .fresh)
  try body finally setContext outer

/-- Look within the evaluation pass that is under way, or within a new one. -/
def withSomeContext (body : Observe α) : Observe α := do
  match ← context? with
  | some _ => body
  | none => withFreshContext body

end ReactiveSchema.Observe
